import Mathlib
import Parlance.Proofs.Dict.Members

/-!
# What a store holds

A store is a table of tables, but all that can be seen of it is which message stands under which
locale and key.

Results:
1. `get?_insertAll`: storing messages under a locale changes what stands under their keys, the last
   message of a key counting, and nothing else.
2. `eq_of_get?_eq`: stores with the same messages are equal.
3. `mem_locales_iff`, `mem_keys_iff`, `size_eq_sum`, `isEmpty_iff`: the locales, the keys and the
   counts are those of the messages.
-/

namespace Parlance.Store

/-! ## Look-ups -/

theorem get?_insertAll (s : Store) (locale : String) (messages : List (String × Compiled))
    (l key : String) :
    (s.insertAll locale messages).get? l key =
      if locale = l then (Dict.last? key messages).or (s.get? l key) else s.get? l key := by
  unfold insertAll
  induction messages generalizing s with
  | nil => simp [Dict.last?_nil]
  | cons m rest ih =>
    obtain ⟨k, compiled⟩ := m
    rw [List.foldl_cons, ih, get?_insert, Dict.last?_cons]
    by_cases hl : locale = l
    · by_cases hk : k = key <;> simp [hl, hk]
    · simp [hl]

/-! ## Tables -/

theorem table_of_mem {s : Store} {locale : String} {t : Table} (h : (locale, t) ∈ s.tables) :
    s.table locale = t := by
  rw [table, Dict.get?_of_mem s.ordered h]
  rfl

/-- A locale has a table if and only if there is a message in it. -/
theorem exists_table_iff (s : Store) (locale : String) :
    (∃ t, Dict.get? locale s.tables = some t) ↔ s.table locale ≠ [] := by
  constructor
  · rintro ⟨t, h⟩
    have hmem := Dict.mem_of_get? h
    rw [table_of_mem hmem]
    exact s.tablesInhabited _ hmem
  · intro h
    cases hget : Dict.get? locale s.tables with
    | none => exact absurd (by rw [table, hget]; rfl) h
    | some t => exact ⟨t, rfl⟩

theorem table_eq_of_get?_eq {s s' : Store} {locale : String}
    (h : ∀ key, s.get? locale key = s'.get? locale key) : s.table locale = s'.table locale :=
  Dict.eq_of_get?_eq (s.ordered_table locale) (s'.ordered_table locale) h

/-- Stores with the same messages are equal. -/
theorem eq_of_get?_eq {s s' : Store} (h : ∀ locale key, s.get? locale key = s'.get? locale key) :
    s = s' := by
  have htables : s.tables = s'.tables := by
    refine Dict.eq_of_get?_eq s.ordered s'.ordered fun locale => ?_
    have htable := table_eq_of_get?_eq (h locale)
    have hiff := s.exists_table_iff locale
    have hiff' := s'.exists_table_iff locale
    rw [htable] at hiff
    unfold table at htable
    cases hget : Dict.get? locale s.tables with
    | none =>
      cases hget' : Dict.get? locale s'.tables with
      | none => rfl
      | some t' =>
        obtain ⟨t, ht⟩ := hiff.2 (hiff'.1 ⟨t', hget'⟩)
        rw [hget] at ht
        cases ht
    | some t =>
      obtain ⟨t', hget'⟩ := hiff'.2 (hiff.1 ⟨t, hget⟩)
      rw [hget, hget'] at htable
      rw [hget']
      exact congrArg some htable
  cases s
  cases s'
  cases htables
  rfl

/-! ## Locales, keys and counts -/

theorem locales_pairwise (s : Store) : s.locales.Pairwise (· < ·) :=
  Dict.names_pairwise s.ordered

theorem keys_pairwise (s : Store) (locale : String) : (s.keys locale).Pairwise (· < ·) :=
  Dict.names_pairwise (s.ordered_table locale)

theorem mem_keys_iff {s : Store} {locale key : String} :
    key ∈ s.keys locale ↔ (s.get? locale key).isSome :=
  Dict.mem_names_iff

theorem mem_locales_iff {s : Store} {locale : String} :
    locale ∈ s.locales ↔ ∃ key, (s.get? locale key).isSome := by
  rw [locales, Dict.mem_names_iff, Option.isSome_iff_exists, exists_table_iff]
  constructor
  · intro h
    obtain ⟨⟨key, compiled⟩, rest, htable⟩ := List.exists_cons_of_ne_nil h
    refine ⟨key, ?_⟩
    rw [get?, htable, Dict.get?_head]
    rfl
  · rintro ⟨key, h⟩ hnil
    rw [get?, hnil] at h
    cases h

theorem size_eq_sum (s : Store) :
    s.size = (s.locales.map fun locale => (s.keys locale).length).sum := by
  have hlengths : s.locales.map (fun locale => (s.keys locale).length) =
      s.tables.map fun t => t.2.length := by
    rw [locales, Dict.names, List.map_map]
    refine List.map_congr_left fun t ht => ?_
    simp only [Function.comp_apply, keys, Dict.names, List.length_map]
    exact congrArg List.length (table_of_mem ht)
  rw [hlengths, size, List.sum, List.foldr_map]

theorem isEmpty_iff {s : Store} : s.isEmpty = true ↔ s.locales = [] := by
  rw [isEmpty, beq_iff_eq, size_eq_sum]
  constructor
  · intro h
    cases hlocales : s.locales with
    | nil => rfl
    | cons locale rest =>
      -- The first locale has a message, which is counted.
      obtain ⟨key, hkey⟩ := mem_locales_iff.1 (hlocales ▸ List.mem_cons_self)
      have hpos : 0 < (s.keys locale).length := List.length_pos_of_mem (mem_keys_iff.2 hkey)
      rw [hlocales, List.map_cons, List.sum_cons] at h
      omega
  · intro h
    rw [h]
    rfl

end Parlance.Store

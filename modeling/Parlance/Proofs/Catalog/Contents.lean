import Parlance.Catalog.Basic

/-!
# What a catalog holds

A catalog is read in three ways: the message under a locale and key, the first one along a chain of
locales, and, for the suggestions of a missing text, the keys of a locale. All three depend only on
which messages stand under which keys: entries are kept in order, so that two tables with the same
look-ups are the same table.

Results:
1. `Dict.eq_of_get?_eq`: dictionaries with the same look-ups are equal.
2. `Store.keys_eq`: locales with the same messages have the same keys.
3. `Catalog.find?_eq`, `Catalog.contains_eq`, `MissingText.error_eq`: a search reads nothing but the
   locales it searches.
-/

namespace Parlance

/-! ## Dictionaries -/

namespace Dict

variable {α : Type}

theorem get?_eq_none_of_forall_lt {name : String} {entries : List (String × α)}
    (h : ∀ e ∈ entries, name < e.1) : get? name entries = none := by
  induction entries with
  | nil => rfl
  | cons e rest ih =>
    obtain ⟨n, a⟩ := e
    have hne : n ≠ name := fun heq =>
      String.lt_irrefl name (heq ▸ h (n, a) List.mem_cons_self)
    rw [get?, if_neg hne]
    exact ih fun d hd => h d (List.mem_cons_of_mem _ hd)

theorem get?_head (name : String) (a : α) (rest : List (String × α)) :
    get? name ((name, a) :: rest) = some a := by
  rw [get?, if_pos rfl]

/-- The names behind the first are greater, so that none of them is below the first name of another
dictionary with the same look-ups. -/
theorem not_head_lt {m n : String} {a b : α} {as bs : List (String × α)}
    (hb : Ordered ((n, b) :: bs))
    (h : get? m ((m, a) :: as) = get? m ((n, b) :: bs)) : ¬m < n := by
  intro hlt
  rw [get?_head, get?_eq_none_of_forall_lt] at h
  · cases h
  · intro e he
    rcases List.mem_cons.1 he with rfl | he
    · exact hlt
    · exact String.lt_trans hlt ((List.pairwise_cons.1 hb).1 e he)

theorem eq_of_get?_eq {entries others : List (String × α)} (hentries : Ordered entries)
    (hothers : Ordered others) (h : ∀ name, get? name entries = get? name others) :
    entries = others := by
  induction entries generalizing others with
  | nil =>
    cases others with
    | nil => rfl
    | cons e rest =>
      have hhead := h e.1
      rw [get?_head] at hhead
      cases hhead
  | cons d as ih =>
    obtain ⟨m, a⟩ := d
    cases others with
    | nil =>
      have hhead := h m
      rw [get?_head] at hhead
      cases hhead
    | cons e bs =>
      obtain ⟨n, b⟩ := e
      obtain rfl : m = n :=
        String.le_antisymm (not_head_lt hentries (h n).symm) (not_head_lt hothers (h m))
      have hhead := h m
      rw [get?_head, get?_head] at hhead
      obtain rfl := Option.some.inj hhead
      obtain ⟨has, hentries⟩ := List.pairwise_cons.1 hentries
      obtain ⟨hbs, hothers⟩ := List.pairwise_cons.1 hothers
      rw [ih hentries hothers fun name => ?_]
      have hname := h name
      by_cases heq : m = name
      · subst heq
        rw [get?_eq_none_of_forall_lt has, get?_eq_none_of_forall_lt hbs]
      · simpa only [get?, if_neg heq] using hname

end Dict

/-! ## Locales -/

theorem Store.keys_eq {s s' : Store} {locale : String}
    (h : ∀ key, s.get? locale key = s'.get? locale key) : s.keys locale = s'.keys locale :=
  congrArg Dict.names (Dict.eq_of_get?_eq (s.ordered_table locale) (s'.ordered_table locale) h)

theorem Store.find?_eq {s s' : Store} {chain : List String}
    (h : ∀ locale ∈ chain, ∀ key, s.get? locale key = s'.get? locale key) (key : String) :
    s.find? chain key = s'.find? chain key := by
  unfold find?
  induction chain with
  | nil => rfl
  | cons locale rest ih =>
    rw [List.findSome?_cons, List.findSome?_cons, h locale List.mem_cons_self key,
      ih fun l hl => h l (List.mem_cons_of_mem locale hl)]

/-! ## Catalogs -/

/-- Two catalogs hold the same messages for every locale of the chain of `locale` in the first. -/
def Catalog.AgreeFor (c c' : Catalog) (locale : String) : Prop :=
  ∀ l ∈ c.chain locale, ∀ key, c.get? key l = c'.get? key l

/-- What is told of a missing text is read from the searched locales only. -/
theorem MissingText.error_eq {r : Message} {locale : String} {searched : List String}
    {s s' : Store} (h : ∀ l ∈ searched, ∀ key, s.get? l key = s'.get? l key) :
    MissingText.error ⟨r, locale, searched, s⟩ = MissingText.error ⟨r, locale, searched, s'⟩ := by
  have hkeys : searched.flatMap s.keys = searched.flatMap s'.keys := by
    rw [List.flatMap_def, List.flatMap_def,
      List.map_congr_left fun l hl => Store.keys_eq (h l hl)]
  simp only [error, knownKeys, hkeys]

namespace Catalog

variable {c c' : Catalog} {locale : String}

theorem find?_eq (hfallback : c'.fallback = c.fallback) (h : c.AgreeFor c' locale) (key : String) :
    c.find? key locale = c'.find? key locale := by
  unfold find?
  rw [show c'.chain locale = c.chain locale from congrFun hfallback locale]
  exact Store.find?_eq h key

theorem contains_eq (hfallback : c'.fallback = c.fallback) (h : c.AgreeFor c' locale)
    (key : String) : c.contains key locale = c'.contains key locale := by
  rw [contains, contains, find?_eq hfallback h]

theorem lookup_of_some {r : Message} {compiled : Compiled}
    (h : c.find? r.key locale = some compiled) : c.lookup r locale = .ok compiled := by
  rw [lookup, h]

theorem lookup_of_none {r : Message} (h : c.find? r.key locale = none) :
    c.lookup r locale = c.missing ⟨r, locale, c.chain locale, c.store⟩ := by
  rw [lookup, h]

/-- A look-up reads the chain of its locale only, if what takes the place of a missing text does. -/
theorem lookup_eq (hfallback : c'.fallback = c.fallback) (h : c.AgreeFor c' locale) (r : Message)
    (hmissing : c.missing ⟨r, locale, c.chain locale, c.store⟩ =
      c'.missing ⟨r, locale, c.chain locale, c'.store⟩) :
    c.lookup r locale = c'.lookup r locale := by
  unfold lookup
  rw [← find?_eq hfallback h, show c'.chain locale = c.chain locale from congrFun hfallback locale,
    hmissing]

end Catalog

end Parlance

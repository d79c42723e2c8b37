/-!
# Dictionaries as ordered lists

A dictionary is a list of named entries with strictly increasing names, so that two dictionaries
with the same entries are the same list. Names are compared by code points. This module holds the
operations on such lists and what they do to a look-up:

* `get?_insert`: a look-up after an insertion sees the new entry under its own name and the old
  dictionary under every other;
* `ordered_insert`: an insertion keeps the order.
-/

namespace Parlance.Dict

variable {α β : Type}

/-! ## Definitions -/

/-- The names stand in strictly increasing order. -/
def Ordered (entries : List (String × α)) : Prop :=
  entries.Pairwise fun a b => a.1 < b.1

instance (entries : List (String × α)) : Decidable (Ordered entries) :=
  inferInstanceAs (Decidable (entries.Pairwise _))

/-- The entry under `name`. -/
def get? (name : String) : List (String × α) → Option α
  | [] => none
  | (n, a) :: rest => if n = name then some a else get? name rest

/-- Puts `value` under `name`, in place of an entry that stands there. -/
def insert (name : String) (value : α) : List (String × α) → List (String × α)
  | [] => [(name, value)]
  | (n, a) :: rest =>
    if name < n then (name, value) :: (n, a) :: rest
    else if name = n then (name, value) :: rest
    else (n, a) :: insert name value rest

/-- The dictionary of a list of members in any order; of several members of one name the last
stands. -/
def ofMembers (members : List (String × α)) : List (String × α) :=
  members.foldl (fun entries m => insert m.1 m.2 entries) []

/-- The names, in order. -/
def names (entries : List (String × α)) : List String :=
  entries.map Prod.fst

/-! ## Look-ups -/

theorem get?_insert (name other : String) (value : α) (entries : List (String × α)) :
    get? other (insert name value entries)
      = if name = other then some value else get? other entries := by
  induction entries with
  | nil => simp [insert, get?]
  | cons e rest ih =>
    obtain ⟨n, a⟩ := e
    by_cases h : name < n
    · simp [insert, h, get?]
    · by_cases h' : name = n
      · subst h'
        have hself : insert name value ((name, a) :: rest) = (name, value) :: rest := by
          rw [insert, if_neg h, if_pos rfl]
        rw [hself, get?, get?]
        split <;> rfl
      · by_cases ho : name = other
        · subst ho
          have hn : n ≠ name := fun hn => h' hn.symm
          simp [insert, h, h', get?, ih, hn]
        · simp [insert, h, h', get?, ih, ho]

/-! ## Order -/

theorem mem_insert {name : String} {value : α} {entries : List (String × α)} {e : String × α}
    (h : e ∈ insert name value entries) : e = (name, value) ∨ e ∈ entries := by
  induction entries with
  | nil => simpa [insert] using h
  | cons d rest ih =>
    obtain ⟨n, a⟩ := d
    by_cases hlt : name < n
    · simpa [insert, hlt] using h
    · by_cases heq : name = n
      · subst heq
        simp only [insert, hlt, if_true, if_false, List.mem_cons] at h
        rcases h with rfl | h
        · exact Or.inl rfl
        · exact Or.inr (List.mem_cons_of_mem _ h)
      · simp only [insert, hlt, heq, if_false, List.mem_cons] at h
        rcases h with rfl | h
        · exact Or.inr (List.mem_cons_self ..)
        · rcases ih h with h | h
          · exact Or.inl h
          · exact Or.inr (List.mem_cons_of_mem _ h)

theorem ordered_insert (name : String) (value : α) {entries : List (String × α)}
    (h : Ordered entries) : Ordered (insert name value entries) := by
  induction entries with
  | nil => simp [insert, Ordered]
  | cons d rest ih =>
    obtain ⟨n, a⟩ := d
    obtain ⟨hd, hr⟩ := List.pairwise_cons.1 h
    by_cases hlt : name < n
    · simp only [insert, hlt, if_true]
      refine List.pairwise_cons.2 ⟨fun e he => ?_, h⟩
      rcases List.mem_cons.1 he with rfl | he
      · exact hlt
      · exact String.lt_trans hlt (hd e he)
    · by_cases heq : name = n
      · subst heq
        simp only [insert, hlt, if_true, if_false]
        exact List.pairwise_cons.2 ⟨hd, hr⟩
      · simp only [insert, hlt, heq, if_false]
        have hgt : n < name :=
          Std.lt_of_le_of_ne (String.not_lt.1 hlt) (Ne.symm heq)
        refine List.pairwise_cons.2 ⟨fun e he => ?_, ih hr⟩
        rcases mem_insert he with rfl | he
        · exact hgt
        · exact hd e he

theorem ordered_foldl_insert (members : List (String × α)) {entries : List (String × α)}
    (h : Ordered entries) :
    Ordered (members.foldl (fun entries m => insert m.1 m.2 entries) entries) := by
  induction members generalizing entries with
  | nil => exact h
  | cons m rest ih => exact ih (ordered_insert m.1 m.2 h)

theorem ordered_ofMembers (members : List (String × α)) : Ordered (ofMembers members) :=
  ordered_foldl_insert members List.Pairwise.nil

end Parlance.Dict

import Mathlib.Data.Finset.Card
import Mathlib.Data.List.Forall2
import Parlance.Proofs.Catalog.Contents

/-!
# Dictionaries made of members

A list of members may name the same thing several times, and of these the last one counts. The
dictionary of the list forgets the others.

Results:
1. `get?_ofMembers`: a look-up in the dictionary finds the last member of the name
   (`last?`, which `last?_eq_some_iff` describes without the dictionary).
2. `length_ofMembers`: the dictionary has as many entries as there are different names.
3. `filter_of_ordered`: a dictionary has one entry of a name at most.
4. `rel_last?`: if the members of two lists are alike one by one, so are the last ones of a name.
-/

namespace Parlance.Dict

variable {α β : Type}

/-! ## Definitions -/

/-- The value of the last member of the given name. -/
def last? (name : String) (members : List (String × α)) : Option α :=
  get? name members.reverse

/-- Two members have the same name and related values. -/
def Alike (R : α → β → Prop) (m : String × α) (n : String × β) : Prop :=
  m.1 = n.1 ∧ R m.2 n.2

/-! ## Look-ups -/

theorem get?_append (name : String) (entries others : List (String × α)) :
    get? name (entries ++ others) = (get? name entries).or (get? name others) := by
  induction entries with
  | nil => rfl
  | cons e rest ih =>
    obtain ⟨n, a⟩ := e
    by_cases hn : n = name
    · simp [get?, hn]
    · simp [get?, hn, ih]

theorem get?_map (f : α → β) (name : String) (entries : List (String × α)) :
    get? name (entries.map fun e => (e.1, f e.2)) = (get? name entries).map f := by
  induction entries with
  | nil => rfl
  | cons e rest ih =>
    obtain ⟨n, a⟩ := e
    by_cases hn : n = name
    · simp [get?, hn]
    · simp [get?, hn, ih]

theorem mem_names_iff {name : String} {entries : List (String × α)} :
    name ∈ names entries ↔ (get? name entries).isSome := by
  induction entries with
  | nil => simp [names, get?]
  | cons e rest ih =>
    obtain ⟨n, a⟩ := e
    by_cases hn : n = name
    · simp [names, get?, hn]
    · simpa [names, get?, hn, Ne.symm hn] using ih

theorem get?_eq_none_iff {name : String} {entries : List (String × α)} :
    get? name entries = none ↔ name ∉ names entries := by
  rw [mem_names_iff, Option.not_isSome_iff_eq_none]

theorem get?_of_mem {name : String} {a : α} {entries : List (String × α)}
    (hordered : Ordered entries) (h : (name, a) ∈ entries) : get? name entries = some a := by
  induction entries with
  | nil => cases h
  | cons e rest ih =>
    obtain ⟨n, b⟩ := e
    obtain ⟨hlt, hrest⟩ := List.pairwise_cons.1 hordered
    rcases List.mem_cons.1 h with heq | hmem
    · obtain ⟨rfl, rfl⟩ := Prod.mk.inj heq
      exact get?_head name a rest
    · have hne : n ≠ name := fun heq => String.lt_irrefl n (heq ▸ hlt (name, a) hmem)
      rw [get?, if_neg hne]
      exact ih hrest hmem

/-! ## Entries of one name -/

/-- In a dictionary one entry at most has a given name. -/
theorem filter_of_ordered (name : String) {entries : List (String × α)}
    (h : Ordered entries) :
    (entries.filter fun e => e.1 == name) =
      ((get? name entries).map fun a => (name, a)).toList := by
  induction entries with
  | nil => rfl
  | cons e rest ih =>
    obtain ⟨n, a⟩ := e
    obtain ⟨hlt, hrest⟩ := List.pairwise_cons.1 h
    by_cases hn : n = name
    · subst hn
      have hothers : (rest.filter fun e => e.1 == n) = [] :=
        List.filter_eq_nil_iff.2 fun e he heq =>
          String.lt_irrefl n (beq_iff_eq.1 heq ▸ hlt e he)
      rw [List.filter_cons_of_pos (by simp), hothers, get?, if_pos rfl]
      rfl
    · rw [List.filter_cons_of_neg (by simpa using hn), get?, if_neg hn, ih hrest]

theorem length_filter_eq_count (name : String) (members : List (String × α)) :
    (members.filter fun m => m.1 == name).length = (names members).count name := by
  rw [names, List.count, List.countP_map, List.countP_eq_length_filter]
  rfl

/-! ## The last member -/

theorem last?_nil (name : String) : last? name ([] : List (String × α)) = none :=
  rfl

theorem last?_cons (name n : String) (a : α) (rest : List (String × α)) :
    last? name ((n, a) :: rest) = (last? name rest).or (if n = name then some a else none) := by
  rw [last?, List.reverse_cons, get?_append]
  rfl

theorem last?_append (name : String) (members more : List (String × α)) :
    last? name (members ++ more) = (last? name more).or (last? name members) := by
  rw [last?, List.reverse_append, get?_append]
  rfl

theorem last?_map (f : α → β) (name : String) (members : List (String × α)) :
    last? name (members.map fun m => (m.1, f m.2)) = (last? name members).map f := by
  rw [last?, ← List.map_reverse, get?_map]
  rfl

theorem last?_isSome_iff {name : String} {members : List (String × α)} :
    (last? name members).isSome ↔ name ∈ names members := by
  rw [last?, ← mem_names_iff, names, names, List.map_reverse, List.mem_reverse]

theorem last?_eq_none_iff {name : String} {members : List (String × α)} :
    last? name members = none ↔ name ∉ names members := by
  rw [← last?_isSome_iff, Option.not_isSome_iff_eq_none]

theorem last?_eq_some_iff {name : String} {a : α} {members : List (String × α)} :
    last? name members = some a ↔
      ∃ before after, members = before ++ (name, a) :: after ∧ name ∉ names after := by
  constructor
  · intro h
    induction members with
    | nil => cases h
    | cons m rest ih =>
      obtain ⟨n, b⟩ := m
      rw [last?_cons] at h
      cases hrest : last? name rest with
      | some c =>
        rw [hrest] at h
        obtain ⟨before, after, rfl, hafter⟩ := ih (hrest.trans h)
        exact ⟨(n, b) :: before, after, rfl, hafter⟩
      | none =>
        rw [hrest, Option.none_or] at h
        split at h
        · next hn =>
          obtain rfl := Option.some.inj h
          subst hn
          exact ⟨[], rest, rfl, last?_eq_none_iff.1 hrest⟩
        · cases h
  · rintro ⟨before, after, rfl, hafter⟩
    rw [last?_append, last?_cons, last?_eq_none_iff.2 hafter, if_pos rfl]
    rfl

theorem mem_of_last? {name : String} {a : α} {members : List (String × α)}
    (h : last? name members = some a) : (name, a) ∈ members := by
  obtain ⟨before, after, rfl, _⟩ := last?_eq_some_iff.1 h
  exact List.mem_append_right before List.mem_cons_self

/-! ## Related members -/

section

variable {R : α → β → Prop} {as : List (String × α)} {bs : List (String × β)}

theorem names_eq_of_alike (h : List.Forall₂ (Alike R) as bs) : names as = names bs := by
  induction h with
  | nil => rfl
  | cons hm _ ih => exact congr (congrArg List.cons hm.1) ih

theorem rel_get? (h : List.Forall₂ (Alike R) as bs) (name : String) :
    Option.Rel R (get? name as) (get? name bs) := by
  induction h with
  | nil => exact .none
  | @cons m n _ _ hm _ ih =>
    obtain ⟨nm, a⟩ := m
    obtain ⟨nn, b⟩ := n
    obtain ⟨rfl, hvalue⟩ : nm = nn ∧ R a b := hm
    rw [get?, get?]
    split
    · exact .some hvalue
    · exact ih

theorem rel_last? (h : List.Forall₂ (Alike R) as bs) (name : String) :
    Option.Rel R (last? name as) (last? name bs) :=
  rel_get? (List.rel_reverse h) name

end

/-! ## The dictionary of a list of members -/

theorem get?_foldl_insert (name : String) (members entries : List (String × α)) :
    get? name (members.foldl (fun entries m => insert m.1 m.2 entries) entries) =
      (last? name members).or (get? name entries) := by
  induction members generalizing entries with
  | nil => rfl
  | cons m rest ih =>
    obtain ⟨n, a⟩ := m
    rw [List.foldl_cons, ih, last?_cons, Option.or_assoc, get?_insert]
    split <;> rfl

theorem get?_ofMembers (name : String) (members : List (String × α)) :
    get? name (ofMembers members) = last? name members := by
  rw [ofMembers, get?_foldl_insert, get?, Option.or_none]

theorem last?_of_ordered {entries : List (String × α)} (h : Ordered entries) (name : String) :
    last? name entries = get? name entries := by
  rw [← get?_ofMembers, ofMembers_of_ordered h]

theorem mem_names_ofMembers {name : String} {members : List (String × α)} :
    name ∈ names (ofMembers members) ↔ name ∈ names members := by
  rw [mem_names_iff, get?_ofMembers, last?_isSome_iff]

theorem names_pairwise {entries : List (String × α)} (h : Ordered entries) :
    (names entries).Pairwise (· < ·) :=
  List.pairwise_map.2 h

theorem names_nodup {entries : List (String × α)} (h : Ordered entries) : (names entries).Nodup :=
  (names_pairwise h).imp String.ne_of_lt

theorem length_ofMembers (members : List (String × α)) :
    (ofMembers members).length = (names members).toFinset.card := by
  have hsame : (names (ofMembers members)).toFinset = (names members).toFinset := by
    ext name
    simp only [List.mem_toFinset, mem_names_ofMembers]
  calc (ofMembers members).length
      = (names (ofMembers members)).length := (List.length_map _).symm
    _ = (names (ofMembers members)).toFinset.card :=
        (List.toFinset_card_of_nodup (names_nodup (ordered_ofMembers members))).symm
    _ = (names members).toFinset.card := congrArg Finset.card hsame

end Parlance.Dict

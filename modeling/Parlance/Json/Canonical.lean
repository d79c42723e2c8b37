import Parlance.Json.Basic

/-!
# Canonical JSON values

What `Json.canonical` gives is canonical, and a dictionary of canonical values is a canonical
object.
-/

namespace Parlance

namespace Dict

variable {α : Type}

theorem mem_ofMembers {members : List (String × α)} {e : String × α} (h : e ∈ ofMembers members) :
    e ∈ members := by
  have key : ∀ (ms entries : List (String × α)),
      e ∈ ms.foldl (fun entries m => insert m.1 m.2 entries) entries → e ∈ ms ∨ e ∈ entries := by
    intro ms
    induction ms with
    | nil => exact fun entries h => Or.inr h
    | cons m rest ih =>
      intro entries h
      rcases ih _ h with h | h
      · exact Or.inl (List.mem_cons_of_mem _ h)
      · rcases mem_insert h with rfl | h
        · exact Or.inl (List.mem_cons_self ..)
        · exact Or.inr h
  rcases key members [] h with h | h
  · exact h
  · cases h

/-- An entry whose name is above all others goes to the end. -/
theorem insert_of_forall_lt (name : String) (value : α) {entries : List (String × α)}
    (h : ∀ e ∈ entries, e.1 < name) : insert name value entries = entries ++ [(name, value)] := by
  induction entries with
  | nil => rfl
  | cons e rest ih =>
    obtain ⟨n, a⟩ := e
    have hn : n < name := h (n, a) (List.mem_cons_self ..)
    have hlt : ¬ name < n := String.lt_asymm hn
    have hne : name ≠ n := fun heq => String.lt_irrefl n (heq ▸ hn)
    rw [insert, if_neg hlt, if_neg hne, ih fun e he => h e (List.mem_cons_of_mem _ he)]
    rfl

/-- A dictionary is made of its own entries. -/
theorem ofMembers_of_ordered {entries : List (String × α)} (h : Ordered entries) :
    ofMembers entries = entries := by
  have key : ∀ (rest done : List (String × α)), Ordered (done ++ rest) →
      rest.foldl (fun entries m => insert m.1 m.2 entries) done = done ++ rest := by
    intro rest
    induction rest with
    | nil => intro done _; simp
    | cons m rest ih =>
      intro done ho
      have hlt : ∀ e ∈ done, e.1 < m.1 := fun e he =>
        (List.pairwise_append.1 ho).2.2 e he m (List.mem_cons_self ..)
      rw [List.foldl_cons, insert_of_forall_lt _ _ hlt, ih]
      · simp
      · simpa using ho
  exact key entries [] h

end Dict

namespace Json

theorem canonicalMembers_eq_map (members : List (String × Json)) :
    canonicalMembers members = members.map fun m => (m.1, m.2.canonical) := by
  induction members with
  | nil => rfl
  | cons m rest ih => simp [canonicalMembers, ih]

theorem canonicalMembers_of_forall {members : List (String × Json)}
    (h : ∀ m ∈ members, m.2.IsCanonical) : canonicalMembers members = members := by
  rw [canonicalMembers_eq_map]
  calc members.map (fun m => (m.1, m.2.canonical))
      = members.map id := List.map_congr_left fun m hm => by rw [h m hm]; rfl
    _ = members := List.map_id _

/-- A dictionary of canonical values is a canonical object. -/
theorem isCanonical_object {members : List (String × Json)} (ho : Dict.Ordered members)
    (hc : ∀ m ∈ members, m.2.IsCanonical) : (Json.object members).IsCanonical := by
  rw [IsCanonical, canonical, canonicalMembers_of_forall hc, Dict.ofMembers_of_ordered ho]

mutual

/-- The canonical form of a value is canonical. -/
theorem canonical_isCanonical : (j : Json) → j.canonical.IsCanonical
  | .null => rfl
  | .bool _ => rfl
  | .integer _ => rfl
  | .real _ => rfl
  | .string _ => rfl
  | .array items => by
    rw [canonical, IsCanonical, canonical, canonicalItems_isCanonical items]
  | .object members => by
    rw [canonical]
    exact isCanonical_object (Dict.ordered_ofMembers _) fun m hm =>
      canonicalMembers_isCanonical members m (Dict.mem_ofMembers hm)

theorem canonicalItems_isCanonical : (items : List Json) →
    canonicalItems (canonicalItems items) = canonicalItems items
  | [] => rfl
  | j :: rest => by
    rw [canonicalItems, canonicalItems, canonical_isCanonical j, canonicalItems_isCanonical rest]

theorem canonicalMembers_isCanonical : (members : List (String × Json)) →
    ∀ m ∈ canonicalMembers members, m.2.IsCanonical
  | [] => by simp [canonicalMembers]
  | (name, j) :: rest => by
    intro m hm
    rw [canonicalMembers] at hm
    rcases List.mem_cons.1 hm with rfl | hm
    · exact canonical_isCanonical j
    · exact canonicalMembers_isCanonical rest m hm

end

end Json

end Parlance

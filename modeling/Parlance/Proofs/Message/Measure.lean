import Parlance.Message.Value

/-!
# Equality and measures of requests

Requests are compared without the locale they prefer, and the values in them structurally. Two
measures of a request matter to rendering, and neither looks into custom values, which only the
formatter of their owner can open:

* the weight counts the values in a request, so that whatever is nested in a request is lighter than
  the request itself;
* the height counts how deep requests are nested in requests, lists not counted.

Results:
1. `Request.same_comm`: equality is symmetric.
2. `Request.weight_eq_of_same`: equal requests weigh the same, so no request equals one that is
   nested in it.
3. `Request.weight_lt_of_mem`, `Value.weight_lt_of_mem`: what is nested is lighter.
   `Request.weight_lt_two_iff`: requests without arguments are lighter than all values.
4. `Request.height_lt_of_mem`: what is nested is lower.
-/

namespace Parlance

/-! ## Definitions -/

namespace Value

mutual

/-- The weight of a value: two for the value itself and the weight of what is nested in it. A value
weighs more than a request without arguments. -/
def weight : Value → Nat
  | .message r => 2 + weightRequest r
  | .list items => 2 + weightAll items
  | _ => 2

/-- The weight of a request: one for the request itself and the weight of its arguments. -/
def weightRequest : Request Value → Nat
  | ⟨_, _, args, named⟩ => 1 + weightAll args + weightNamed named

/-- The weights of some values together. -/
def weightAll : List Value → Nat
  | [] => 0
  | v :: rest => weight v + weightAll rest

/-- The weights of some named values together. -/
def weightNamed : List (String × Value) → Nat
  | [] => 0
  | (_, v) :: rest => weight v + weightNamed rest

end

mutual

/-- The height of the highest request in a value, directly or in lists. -/
def height : Value → Nat
  | .message r => heightRequest r
  | .list items => heightAll items
  | _ => 0

/-- The height of a request: one more than the highest request among its arguments. -/
def heightRequest : Request Value → Nat
  | ⟨_, _, args, named⟩ => 1 + max (heightAll args) (heightNamed named)

/-- The height of the highest request in some values. -/
def heightAll : List Value → Nat
  | [] => 0
  | v :: rest => max (height v) (heightAll rest)

/-- The height of the highest request in some named values. -/
def heightNamed : List (String × Value) → Nat
  | [] => 0
  | (_, v) :: rest => max (height v) (heightNamed rest)

end

end Value

/-- The weight of a request. -/
def Request.weight (r : Message) : Nat :=
  Value.weightRequest r

/-- The height of a request: one more than the highest request among its arguments. -/
def Request.height (r : Message) : Nat :=
  Value.heightRequest r

/-! ## Equality -/

theorem Finite.sameNumber_comm (x y : Finite) : x.sameNumber y = y.sameNumber x := by
  unfold Finite.sameNumber
  by_cases h : x.units = y.units
  · rw [h, Bool.beq_comm (a := x.negative)]
  · rw [beq_false_of_ne h, beq_false_of_ne (Ne.symm h), Bool.false_and, Bool.false_and]

theorem Binary64.sameNumber_comm (x y : Binary64) : x.sameNumber y = y.sameNumber x := by
  cases x <;> cases y <;> simp [Binary64.sameNumber, Finite.sameNumber_comm, Bool.beq_comm]

namespace Value

mutual

theorem same_comm (v w : Value) : v.same w = w.same v := by
  cases v with
  | string s => cases w <;> simp [same, Bool.beq_comm]
  | message r =>
    cases w with
    | message q => simpa [same] using sameRequest_comm r q
    | _ => simp [same]
  | list xs =>
    cases w with
    | list ys => simpa [same] using sameAll_comm xs ys
    | _ => simp [same]
  | integer m => cases w <;> simp [same, Bool.beq_comm]
  | float x => cases w <;> simp [same, Binary64.sameNumber_comm]
  | custom i => cases w <;> simp [same, Bool.beq_comm]

theorem sameRequest_comm (r q : Request Value) : sameRequest r q = sameRequest q r := by
  cases r with
  | mk key locale args named =>
    cases q with
    | mk key' locale' args' named' =>
      simp only [sameRequest]
      rw [sameAll_comm args args', sameNamed_comm named named', Bool.beq_comm]

theorem sameAll_comm (vs ws : List Value) : sameAll vs ws = sameAll ws vs := by
  cases vs with
  | nil => cases ws <;> simp [sameAll]
  | cons v vs =>
    cases ws with
    | nil => simp [sameAll]
    | cons w ws =>
      simp only [sameAll]
      rw [same_comm v w, sameAll_comm vs ws]

theorem sameNamed_comm (vs ws : List (String × Value)) : sameNamed vs ws = sameNamed ws vs := by
  cases vs with
  | nil => cases ws <;> simp [sameNamed]
  | cons e vs =>
    cases e with
    | mk m v =>
      cases ws with
      | nil => simp [sameNamed]
      | cons d ws =>
        cases d with
        | mk n w =>
          simp only [sameNamed]
          rw [same_comm v w, sameNamed_comm vs ws, Bool.beq_comm (a := m)]

end

/-! ## Weight -/

mutual

theorem weight_eq_of_same (v w : Value) (h : v.same w = true) : v.weight = w.weight := by
  cases v with
  | message r =>
    cases w with
    | message q =>
      have := weightRequest_eq_of_same r q (by simpa [same] using h)
      simp [weight, this]
    | _ => simp [same] at h
  | list xs =>
    cases w with
    | list ys =>
      have := weightAll_eq_of_same xs ys (by simpa [same] using h)
      simp [weight, this]
    | _ => simp [same] at h
  | _ => cases w <;> simp [same, weight] at h ⊢

theorem weightRequest_eq_of_same (r q : Request Value) (h : sameRequest r q = true) :
    weightRequest r = weightRequest q := by
  cases r with
  | mk key locale args named =>
    cases q with
    | mk key' locale' args' named' =>
      -- The preferred locale takes no part in equality, and none in the weight.
      simp only [sameRequest, Bool.and_eq_true] at h
      obtain ⟨⟨_, hargs⟩, hnamed⟩ := h
      simp only [weightRequest]
      rw [weightAll_eq_of_same args args' hargs, weightNamed_eq_of_same named named' hnamed]

theorem weightAll_eq_of_same (vs ws : List Value) (h : sameAll vs ws = true) :
    weightAll vs = weightAll ws := by
  cases vs with
  | nil => cases ws <;> simp [sameAll] at h ⊢
  | cons v vs =>
    cases ws with
    | nil => simp [sameAll] at h
    | cons w ws =>
      simp only [sameAll, Bool.and_eq_true] at h
      simp only [weightAll]
      rw [weight_eq_of_same v w h.1, weightAll_eq_of_same vs ws h.2]

theorem weightNamed_eq_of_same (vs ws : List (String × Value)) (h : sameNamed vs ws = true) :
    weightNamed vs = weightNamed ws := by
  cases vs with
  | nil => cases ws <;> simp [sameNamed] at h ⊢
  | cons e vs =>
    cases e with
    | mk m v =>
      cases ws with
      | nil => simp [sameNamed] at h
      | cons d ws =>
        cases d with
        | mk n w =>
          simp only [sameNamed, Bool.and_eq_true] at h
          simp only [weightNamed]
          rw [weight_eq_of_same v w h.1.2, weightNamed_eq_of_same vs ws h.2]

end

theorem two_le_weight (v : Value) : 2 ≤ v.weight := by
  cases v <;> simp [weight]

theorem weight_le_weightAll {v : Value} {vs : List Value} (h : v ∈ vs) :
    v.weight ≤ weightAll vs := by
  induction vs with
  | nil => cases h
  | cons w rest ih =>
    simp only [weightAll]
    rcases List.mem_cons.1 h with rfl | h
    · omega
    · have := ih h
      omega

theorem weight_le_weightNamed {name : String} {v : Value} {vs : List (String × Value)}
    (h : (name, v) ∈ vs) : v.weight ≤ weightNamed vs := by
  induction vs with
  | nil => cases h
  | cons e rest ih =>
    obtain ⟨n, w⟩ := e
    simp only [weightNamed]
    rcases List.mem_cons.1 h with h | h
    · obtain ⟨rfl, rfl⟩ := Prod.mk.inj h
      omega
    · have := ih h
      omega

/-- An item is lighter than its list. -/
theorem weight_lt_of_mem {v : Value} {items : List Value} (h : v ∈ items) :
    v.weight < (Value.list items).weight := by
  have := weight_le_weightAll h
  simp only [weight]
  omega

theorem height_le_heightAll {v : Value} {vs : List Value} (h : v ∈ vs) :
    v.height ≤ heightAll vs := by
  induction vs with
  | nil => cases h
  | cons w rest ih =>
    simp only [heightAll]
    rcases List.mem_cons.1 h with rfl | h
    · omega
    · have := ih h
      omega

theorem height_le_heightNamed {name : String} {v : Value} {vs : List (String × Value)}
    (h : (name, v) ∈ vs) : v.height ≤ heightNamed vs := by
  induction vs with
  | nil => cases h
  | cons e rest ih =>
    obtain ⟨n, w⟩ := e
    simp only [heightNamed]
    rcases List.mem_cons.1 h with h | h
    · obtain ⟨rfl, rfl⟩ := Prod.mk.inj h
      omega
    · have := ih h
      omega

end Value

namespace Request

/-- The values that are arguments of a request, positional or named. -/
def arguments (r : Message) : List Value :=
  r.args ++ r.named.map Prod.snd

theorem same_comm (r q : Message) : r.same q = q.same r :=
  Value.sameRequest_comm r q

/-- Equal requests weigh the same. -/
theorem weight_eq_of_same {r q : Message} (h : r.same q = true) : r.weight = q.weight :=
  Value.weightRequest_eq_of_same r q h

@[simp] theorem weight_ofKey (key : String) : (ofKey key : Message).weight = 1 := by
  simp [weight, ofKey, Value.weightRequest, Value.weightAll, Value.weightNamed]

/-- An argument is lighter than its request. -/
theorem weight_lt_of_mem {r : Message} {v : Value} (h : v ∈ r.arguments) :
    v.weight < r.weight := by
  obtain ⟨key, locale, args, named⟩ := r
  simp only [arguments, List.mem_append, List.mem_map] at h
  simp only [weight, Value.weightRequest]
  rcases h with h | ⟨⟨name, w⟩, h, rfl⟩
  · have := Value.weight_le_weightAll h
    omega
  · have : w.weight ≤ _ := Value.weight_le_weightNamed h
    show w.weight < _
    omega

/-- A request without arguments is lighter than any value, and no other request is. -/
theorem weight_lt_two_iff {r : Message} : r.weight < 2 ↔ r.arguments = [] := by
  constructor
  · intro h
    refine List.eq_nil_iff_forall_not_mem.2 fun v hv => ?_
    have hlt := weight_lt_of_mem hv
    have hle := v.two_le_weight
    omega
  · intro h
    obtain ⟨key, locale, args, named⟩ := r
    obtain ⟨rfl, hnamed⟩ := List.append_eq_nil_iff.1 h
    obtain rfl := List.map_eq_nil_iff.1 hnamed
    simp [weight, Value.weightRequest, Value.weightAll, Value.weightNamed]

theorem height_pos (r : Message) : 0 < r.height := by
  obtain ⟨key, locale, args, named⟩ := r
  simp only [height, Value.heightRequest]
  omega

/-- A request in an argument is lower than the request around it. -/
theorem height_lt_of_mem {r : Message} {v : Value} (h : v ∈ r.arguments) :
    v.height < r.height := by
  obtain ⟨key, locale, args, named⟩ := r
  simp only [arguments, List.mem_append, List.mem_map] at h
  simp only [height, Value.heightRequest]
  rcases h with h | ⟨⟨name, w⟩, h, rfl⟩
  · have := Value.height_le_heightAll h
    omega
  · have : w.height ≤ _ := Value.height_le_heightNamed h
    show w.height < _
    omega

end Request

end Parlance

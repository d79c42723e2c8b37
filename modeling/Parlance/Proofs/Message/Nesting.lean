import Parlance.Proofs.Message.Measure

/-!
# Messages in messages

Which messages an evaluation can come across: those among the arguments of a request, directly or in
lists nested to any depth, and those nested in these. Custom values are not opened.

Results:
1. `Value.height_le_of_holds`: a message in a value is not higher than the value.
2. `Request.weight_lt_of_nests`: a message nested in a request is lighter than the request.
-/

namespace Parlance

/-! ## Definitions -/

/-- The value is the message, or a list in which it is, in lists nested to any depth. -/
inductive Value.Holds : Value → Message → Prop
  | message {r : Message} : Holds (.message r) r
  | item {v : Value} {items : List Value} {r : Message} :
      v ∈ items → Holds v r → Holds (.list items) r

/-- The message `m` is nested in the request, to any depth. -/
inductive Request.Nests : Message → Message → Prop
  | argument {r m : Message} {v : Value} : v ∈ r.arguments → v.Holds m → Nests r m
  | deeper {r q m : Message} {v : Value} :
      v ∈ r.arguments → v.Holds q → Nests q m → Nests r m

/-! ## Height -/

theorem Value.height_le_of_holds {v : Value} {m : Message} (h : v.Holds m) :
    m.height ≤ v.height := by
  induction h with
  | message => exact Nat.le_refl _
  | item hmem _ ih => exact Nat.le_trans ih (height_le_heightAll hmem)

/-! ## Weight -/

theorem Value.weight_lt_of_holds {v : Value} {m : Message} (h : v.Holds m) :
    m.weight < v.weight := by
  induction h with
  | message =>
    simp only [weight, Request.weight]
    omega
  | item hmem _ ih => exact Nat.lt_trans ih (weight_lt_of_mem hmem)

theorem Request.weight_lt_of_nests {r m : Message} (h : r.Nests m) : m.weight < r.weight := by
  induction h with
  | argument hmem hholds =>
    exact Nat.lt_trans (Value.weight_lt_of_holds hholds) (weight_lt_of_mem hmem)
  | deeper hmem hholds _ ih =>
    exact Nat.lt_trans ih (Nat.lt_trans (Value.weight_lt_of_holds hholds) (weight_lt_of_mem hmem))

end Parlance

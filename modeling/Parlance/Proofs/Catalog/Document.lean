import Parlance.Catalog.Document
import Parlance.Proofs.Dict.Members
import Parlance.Proofs.Json.Reading

/-!
# What a document holds

A document is decoded while it is read: each member becomes a pattern as soon as its value ends, and
the first that is none ends the reading. What comes out is nevertheless what the whole text says as
a JSON value, member by member in the order of the text, repeated keys included.

Results:
1. `readMembers_of_membersFrom`, `membersFrom_of_readMembers`: from any place on, the members of a
   document are those of the JSON reader, each of them a pattern.
2. `isObject_of_parse`, `parse_of_isObject`: a text is a document if and only if it is a JSON object
   all of whose members are patterns.
-/

namespace Parlance.Document

/-! ## Definitions -/

/-- A member of an object, and the key with the pattern that it is. -/
abbrev IsMember : String × Json → String × Pattern → Prop :=
  Dict.Alike fun j p => Pattern.ofJson? j = some p

/-- The text is a JSON object with these members, in order. -/
def IsObject (text : String) (fields : List (String × Json)) : Prop :=
  Json.parse Json.bracketLimit text = .ok (.object fields)

/-! ## Members -/

theorem readMembers_of_membersFrom {fuel : Nat} {seen : List (String × Json)}
    {past members : List (String × Pattern)} {cs rest : List Char}
    (hpast : List.Forall₂ IsMember seen past)
    (h : membersFrom fuel past cs = .ok (members, rest)) :
    ∃ fields, Json.readMembers (Json.bracketLimit - 1) seen cs = .ok (.object fields, rest) ∧
      List.Forall₂ IsMember fields members := by
  induction fuel generalizing seen past cs with
  | zero => cases h
  | succ fuel ih =>
    have hfirst : seen.isEmpty = past.isEmpty := by cases hpast <;> rfl
    rw [Json.readMembers_eq, hfirst]
    rw [membersFrom] at h
    unfold Json.partsWith
    cases hnext : Json.nextName past.isEmpty cs with
    | error stop =>
      rw [hnext] at h
      cases h
    | ok next =>
      obtain ⟨_ | key, behind⟩ := next
      · rw [hnext] at h
        cases h
        exact ⟨seen.reverse, rfl, List.rel_reverse hpast⟩
      · rw [hnext] at h
        dsimp only at h ⊢
        cases hvalue : Json.readValue (Json.bracketLimit - 1) behind with
        | error stop =>
          rw [hvalue] at h
          cases h
        | ok value =>
          obtain ⟨j, behind'⟩ := value
          rw [hvalue] at h
          dsimp only at h ⊢
          cases hp : Pattern.ofJson? j with
          | none =>
            rw [hp] at h
            cases h
          | some p =>
            rw [hp] at h
            exact ih (.cons ⟨rfl, hp⟩ hpast) h

theorem membersFrom_of_readMembers {fuel : Nat} {seen fields : List (String × Json)}
    {past : List (String × Pattern)} {cs rest : List Char} (hfuel : cs.length < fuel)
    (hfirst : seen.isEmpty = past.isEmpty)
    (h : Json.readMembers (Json.bracketLimit - 1) seen cs = .ok (.object fields, rest))
    (hpatterns : ∀ f ∈ fields, (Pattern.ofJson? f.2).isSome) :
    ∃ members, membersFrom fuel past cs = .ok (members, rest) := by
  induction fuel generalizing seen past cs with
  | zero => omega
  | succ fuel ih =>
    rw [Json.readMembers_eq, hfirst] at h
    rw [membersFrom]
    unfold Json.partsWith at h
    have hleaves := (Json.keeps_nextName past.isEmpty cs).leaves
    cases hnext : Json.nextName past.isEmpty cs with
    | error stop =>
      rw [hnext] at h
      cases h
    | ok next =>
      obtain ⟨_ | key, behind⟩ := next
      · rw [hnext] at h
        cases h
        exact ⟨past.reverse, rfl⟩
      · rw [hnext] at h
        dsimp only at h ⊢
        have hbehind := hleaves _ _ hnext
        cases hvalue : Json.readValue (Json.bracketLimit - 1) behind with
        | error stop =>
          rw [hvalue] at h
          cases h
        | ok value =>
          obtain ⟨j, behind'⟩ := value
          rw [hvalue] at h
          dsimp only at h ⊢
          -- The value that was just read is among the members in the end.
          obtain ⟨more, hmore⟩ := Json.exists_object_of_membersFrom h
          have hmem : (key, j) ∈ fields := by
            cases hmore
            simp
          obtain ⟨p, hp⟩ := Option.isSome_iff_exists.1 (hpatterns _ hmem)
          rw [hp]
          have hshorter := Json.shortens_readValue _ _ _ _ hvalue
          exact ih (by omega) rfl h

/-! ## Documents -/

theorem membersOf_eq_ok_iff {cs rest : List Char} {members : List (String × Pattern)} :
    membersOf cs = .ok (members, rest) ↔
      ∃ behind, Json.skipSpace cs = '\x7b' :: behind ∧
        membersFrom (behind.length + 1) [] behind = .ok (members, rest) := by
  constructor
  · intro h
    unfold membersOf at h
    split at h
    · next behind heq => exact ⟨behind, heq, h⟩
    · cases h
    · split at h <;> cases h
  · rintro ⟨behind, heq, h⟩
    rw [membersOf, heq]
    exact h

theorem parse_eq_ok_iff {text : String} {members : List (String × Pattern)} :
    parse text = .ok members ↔
      ∃ rest, membersOf text.toList = .ok (members, rest) ∧ Json.readEnd rest = .ok () := by
  unfold parse
  constructor
  · intro h
    split at h
    · cases h
    · next members' rest heq =>
      split at h
      · cases h
      · next hend =>
        cases h
        exact ⟨rest, heq, hend⟩
  · rintro ⟨rest, heq, hend⟩
    rw [heq]
    dsimp only
    rw [hend]

theorem isObject_of_parse {text : String} {members : List (String × Pattern)}
    (h : parse text = .ok members) :
    ∃ fields, IsObject text fields ∧ List.Forall₂ IsMember fields members := by
  obtain ⟨rest, hmembers, hend⟩ := parse_eq_ok_iff.1 h
  obtain ⟨behind, hbrace, hfrom⟩ := membersOf_eq_ok_iff.1 hmembers
  obtain ⟨fields, hfields, hforall⟩ := readMembers_of_membersFrom .nil hfrom
  refine ⟨fields, Json.parse_eq_ok_iff.2 ⟨rest, ?_, hend⟩, hforall⟩
  exact (Json.readValue_of_brace hbrace _).trans hfields

theorem parse_of_isObject {text : String} {fields : List (String × Json)}
    (h : IsObject text fields) (hpatterns : ∀ f ∈ fields, (Pattern.ofJson? f.2).isSome) :
    ∃ members, parse text = .ok members ∧ List.Forall₂ IsMember fields members := by
  obtain ⟨rest, hvalue, hend⟩ := Json.parse_eq_ok_iff.1 h
  obtain ⟨behind, hbrace⟩ := Json.exists_brace_of_readValue hvalue
  have hfields := (Json.readValue_of_brace hbrace (Json.bracketLimit - 1)).symm.trans hvalue
  obtain ⟨members, hfrom⟩ : ∃ members, membersFrom (behind.length + 1) [] behind =
      .ok (members, rest) :=
    membersFrom_of_readMembers (Nat.lt_succ_self _) rfl hfields hpatterns
  have hparse : parse text = .ok members :=
    parse_eq_ok_iff.2 ⟨rest, membersOf_eq_ok_iff.2 ⟨behind, hbrace, hfrom⟩, hend⟩
  -- The same members come out of the two readings, so that the object is the same.
  obtain ⟨fields', hobject, hforall⟩ := isObject_of_parse hparse
  obtain rfl : fields' = fields := Json.object.inj (Except.ok.inj (hobject.symm.trans h))
  exact ⟨members, hparse, hforall⟩

end Parlance.Document

import Parlance.Proofs.Catalog.Document

/-!
# Where a document writes its keys

The reader of a document does not keep the place where it reads a key. A name is the part of the
text in which a member writes its key, quotes included. It stands where the reader comes to a
member, be it behind the opening bracket or behind a comma, and a colon and the value of the member
follow it. Other strings of the document are no names, even if their texts are the same.

Results:
1. `nextName_eq_ok_iff`: what the reader takes for a name.
2. `Passes.readValue_eq`: when some members have been passed, the others are still to be read.
3. `mem_iff_exists_nameAt`: the members of a document are those that have a name in it.
-/

namespace Parlance

namespace Json

/-! ## Definitions -/

/-- The next member of an object, if there is one, is at the beginning of `start`: behind blanks if
it is the first one, else behind a comma with blanks around it. -/
inductive Opens (start cs : List Char) : (first : Bool) → Prop
  | first : skipSpace cs = start → Opens start cs true
  | next {rest : List Char} : skipSpace cs = ',' :: rest → skipSpace rest = start →
    Opens start cs false

end Json

namespace Document

/-- The reader of a document has passed the members seen, and `cs` is still to be read. -/
inductive Passes (text : List Char) : (seen : List (String × Json)) → (cs : List Char) → Prop
  | bracket {cs : List Char} : Json.skipSpace text = '\x7b' :: cs → Passes text [] cs
  | member {seen : List (String × Json)} {cs behind rest : List Char} {key : String}
    {value : Json} :
    Passes text seen cs → Json.nextName seen.isEmpty cs = .ok (some key, behind) →
    Json.readValue (Json.bracketLimit - 1) behind = .ok (value, rest) →
    Passes text (seen ++ [(key, value)]) rest

/-- Between `before` and `behind` stands a name of the document, that of a member with this key and
this value. -/
structure NameAt (text before name behind : List Char) (key : String) (value : Json) : Prop where
  text_eq : text = before ++ name ++ behind
  quoted : ∃ body, name = '"' :: body ∧ Json.readString (body ++ behind) = .ok (key, behind)
  valued : ∃ rest after, Json.skipSpace behind = ':' :: rest ∧
    Json.readValue (Json.bracketLimit - 1) rest = .ok (value, after)
  opens : ∃ seen cs, Passes text seen cs ∧ Json.Opens (name ++ behind) cs seen.isEmpty

end Document

/-! ## Names in the reader -/

namespace Json

theorem Opens.suffix {start cs : List Char} {first : Bool} (h : Opens start cs first) :
    start <:+ cs := by
  cases h with
  | first h => exact h ▸ skipSpace_suffix cs
  | next hcomma h => exact (h ▸ skipSpace_suffix _).trans (suffix_of_skipSpace hcomma)

theorem readName_eq_ok_iff {cs behind : List Char} {key : String} :
    readName cs = .ok (some key, behind) ↔
      ∃ rest, readString cs = .ok (key, rest) ∧ skipSpace rest = ':' :: behind := by
  unfold readName
  constructor
  · intro h
    split at h
    · cases h
    · next name rest hstring =>
      split at h
      · cases h
      · next behind' hcolon =>
        cases h
        exact ⟨rest, hstring, hcolon⟩
      · cases h
  · rintro ⟨rest, hstring, hcolon⟩
    rw [hstring]
    dsimp only
    rw [hcolon]
    rfl

/-- The reader takes for the next name a string where the next member opens, with a colon behind
it. -/
theorem nextName_eq_ok_iff {first : Bool} {cs behind : List Char} {key : String} :
    nextName first cs = .ok (some key, behind) ↔
      ∃ body, Opens ('"' :: body) cs first ∧ readName body = .ok (some key, behind) := by
  constructor
  · intro h
    unfold nextName at h
    split at h
    · cases h
    · cases h
    · next c rest _ hspace =>
      split at h
      · next hfirst =>
        split at h
        · next hquote =>
          subst hfirst hquote
          exact ⟨rest, .first hspace, h⟩
        · cases h
      · next hfirst =>
        obtain rfl : first = false := by simpa using hfirst
        split at h
        · next hcomma =>
          subst hcomma
          split at h
          · cases h
          · next body hquote => exact ⟨body, .next hspace hquote, h⟩
          · cases h
          · cases h
        · cases h
  · rintro ⟨body, hopens, hname⟩
    unfold nextName
    cases hopens with
    | first hspace =>
      rw [hspace]
      exact hname
    | next hcomma hspace =>
      rw [hcomma]
      simp [hspace, hname]

/-- If the object that is read has a member behind those seen, this member is read next. -/
theorem exists_next_of_readMembers {room : Nat} {seen more : List (String × Json)}
    {m : String × Json} {cs rest : List Char}
    (h : readMembers room seen cs = .ok (.object (seen.reverse ++ m :: more), rest)) :
    ∃ behind after, nextName seen.isEmpty cs = .ok (some m.1, behind) ∧
      readValue room behind = .ok (m.2, after) := by
  rw [readMembers_eq] at h
  unfold partsWith at h
  split at h
  · cases h
  · simp at h
  · next key behind hname =>
    split at h
    · cases h
    · next value after hvalue =>
      obtain ⟨others, heq⟩ := exists_object_of_membersFrom h
      rw [List.reverse_cons, List.append_assoc] at heq
      obtain ⟨rfl, -⟩ := List.cons.inj (List.append_cancel_left (Json.object.inj heq))
      exact ⟨behind, after, hname, hvalue⟩

end Json

namespace Document

/-! ## Passing members -/

theorem Passes.suffix {text cs : List Char} {seen : List (String × Json)}
    (h : Passes text seen cs) : cs <:+ text := by
  induction h with
  | bracket hbrace => exact Json.suffix_of_skipSpace hbrace
  | member _ hname hvalue ih =>
    have hbehind := Json.keeps_nextName _ _ _ _ hname
    have hrest := Json.keeps_readValue _ _ _ _ hvalue
    exact hrest.trans (hbehind.trans ih)

/-- When some members have been passed, the others are still to be read. -/
theorem Passes.readValue_eq {text cs : List Char} {seen : List (String × Json)}
    (h : Passes text seen cs) :
    Json.readValue Json.bracketLimit text =
      Json.readMembers (Json.bracketLimit - 1) seen.reverse cs := by
  induction h with
  | bracket hbrace => exact Json.readValue_of_brace hbrace _
  | member _ hname hvalue ih =>
    rw [ih, Json.readMembers_eq, List.isEmpty_reverse, hname, Json.partsWith, hvalue,
      List.reverse_append]
    rfl

section

variable {text : String} {seen more : List (String × Json)} {m : String × Json}

theorem Passes.exists_next {cs : List Char} (hobject : IsObject text (seen ++ m :: more))
    (h : Passes text.toList seen cs) :
    ∃ behind rest, Json.nextName seen.isEmpty cs = .ok (some m.1, behind) ∧
      Json.readValue (Json.bracketLimit - 1) behind = .ok (m.2, rest) := by
  obtain ⟨after, hvalue, -⟩ := Json.parse_eq_ok_iff.1 hobject
  rw [h.readValue_eq, ← List.reverse_reverse seen] at hvalue
  rw [← List.isEmpty_reverse]
  exact Json.exists_next_of_readMembers (by simpa using hvalue)

/-- The reader passes all members of a document, one after the other. -/
theorem exists_passes (hobject : IsObject text (seen ++ more)) :
    ∃ cs, Passes text.toList seen cs := by
  induction seen using List.reverseRecOn generalizing more with
  | nil =>
    obtain ⟨after, hvalue, -⟩ := Json.parse_eq_ok_iff.1 hobject
    obtain ⟨cs, hbrace⟩ := Json.exists_brace_of_readValue hvalue
    exact ⟨cs, .bracket hbrace⟩
  | append_singleton seen m ih =>
    rw [List.append_assoc] at hobject
    obtain ⟨cs, hpasses⟩ := ih hobject
    obtain ⟨behind, rest, hname, hvalue⟩ := hpasses.exists_next hobject
    exact ⟨rest, hpasses.member hname hvalue⟩

end

/-! ## Names of members -/

section

variable {text : String} {fields : List (String × Json)} {key : String} {value : Json}

theorem NameAt.mem {before name behind : List Char} (hobject : IsObject text fields)
    (h : NameAt text.toList before name behind key value) : (key, value) ∈ fields := by
  obtain ⟨body, rfl, hstring⟩ := h.quoted
  obtain ⟨rest, after, hcolon, hvalue⟩ := h.valued
  obtain ⟨seen, cs, hpasses, hopens⟩ := h.opens
  have hname : Json.nextName seen.isEmpty cs = .ok (some key, rest) :=
    Json.nextName_eq_ok_iff.2 ⟨_, hopens, Json.readName_eq_ok_iff.2 ⟨behind, hstring, hcolon⟩⟩
  obtain ⟨last, hread, -⟩ := Json.parse_eq_ok_iff.1 hobject
  rw [(hpasses.member hname hvalue).readValue_eq] at hread
  obtain ⟨more, heq⟩ := Json.exists_object_of_membersFrom hread
  rw [Json.object.inj heq, List.reverse_reverse]
  exact List.mem_append_left more (List.mem_append_right seen List.mem_cons_self)

theorem exists_nameAt (hobject : IsObject text fields) (hmem : (key, value) ∈ fields) :
    ∃ before name behind, NameAt text.toList before name behind key value := by
  obtain ⟨seen, more, rfl⟩ := List.append_of_mem hmem
  obtain ⟨cs, hpasses⟩ := exists_passes hobject
  obtain ⟨rest, after, hname, hvalue⟩ := hpasses.exists_next hobject
  obtain ⟨body, hopens, hbody⟩ := Json.nextName_eq_ok_iff.1 hname
  obtain ⟨behind, hstring, hcolon⟩ := Json.readName_eq_ok_iff.1 hbody
  obtain ⟨inner, rfl⟩ := Json.keeps_readString _ _ _ hstring
  obtain ⟨before, hbefore⟩ := hopens.suffix.trans hpasses.suffix
  refine ⟨before, '"' :: inner, behind, ?_, ⟨inner, rfl, hstring⟩, ⟨rest, after, hcolon, hvalue⟩,
    seen, cs, hpasses, hopens⟩
  rw [← hbefore, List.append_assoc]
  rfl

/-- The members of a document are those that have a name in it. -/
theorem mem_iff_exists_nameAt (hobject : IsObject text fields) :
    (key, value) ∈ fields ↔
      ∃ before name behind, NameAt text.toList before name behind key value := by
  constructor
  · exact exists_nameAt hobject
  · rintro ⟨before, name, behind, hname⟩
    exact hname.mem hobject

end

end Document

end Parlance

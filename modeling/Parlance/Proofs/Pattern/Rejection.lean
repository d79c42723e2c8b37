import Parlance.Proofs.Pattern.RoundTrip

/-!
# Refused patterns in JSON and back

What is no segment is kept as a canonical value, and the error of the pattern shows it. A canonical
value has one member of each name, the last. So an object that names its selector several times is
no reference, and yet its canonical form is one if the last of these members selects an argument.

Results:
1. `Segment.ofJson_toJson_of_not_shadows`, `Segment.exists_ofJson_toJson_of_shadows`: what a decoded
   segment comes back as.
2. `Segment.compileAll_eq_error_iff`: the error of a list is that of its first bad segment.
3. `rejection_survives_iff`: which refused patterns are refused with the same error when they come
   back from their JSON value.
-/

namespace Parlance

/-! ## Definitions -/

/-- The segment that an error is about. -/
def PatternError.position : PatternError → Nat
  | .unsupportedSegment position _ => position
  | .negativeIndex position _ => position

namespace Json

/-- A value that selects an argument if it stands alone: a name or a position of 64 bits. -/
def CanSelect : Json → Prop
  | .string _ => True
  | .integer i => -2 ^ 63 ≤ i ∧ i < 2 ^ 63
  | _ => False

/-- An object that names its selector several times, where the last of these members shadows the
others and would select an argument. -/
def Shadows (j : Json) : Prop :=
  ∃ members value, j = .object members ∧ 2 ≤ (Dict.names members).count selectorName ∧
    Dict.last? selectorName members = some value ∧ value.CanSelect

end Json

/-! ## Canonical members -/

theorem Selector.ofJson?_canonical (value : Json) : ofJson? value.canonical = ofJson? value := by
  cases value <;> rfl

theorem Selector.exists_ofJson?_iff {value : Json} :
    (∃ selector, ofJson? value = some selector) ↔ value.CanSelect := by
  constructor
  · rintro ⟨selector, h⟩
    rcases ofJson?_eq_some_iff.1 h with ⟨n, rfl, -⟩ | ⟨i, rfl, hfits, -⟩
    · trivial
    · exact hfits
  · intro h
    cases value with
    | string n => exact ⟨.name n, rfl⟩
    | integer i => exact ⟨.index i, ofJson?_eq_some_iff.2 (.inr ⟨i, rfl, h, rfl⟩)⟩
    | _ => cases h

namespace Segment

/-- Among canonical members the last selector is the only one. -/
theorem selectorOf?_canonicalMembers (members : List (String × Json)) :
    selectorOf? (Dict.ofMembers (Json.canonicalMembers members)) =
      (Dict.last? selectorName members).bind Selector.ofJson? := by
  rw [selectorOf?, Dict.filter_of_ordered selectorName (Dict.ordered_ofMembers _),
    Dict.get?_ofMembers, Json.canonicalMembers_eq_map, Dict.last?_map]
  cases Dict.last? selectorName members with
  | none => rfl
  | some value => exact Selector.ofJson?_canonical value

/-- The last selector would do, but the object is no reference: it has several. -/
theorem shadows_object_iff {members : List (String × Json)} :
    (Json.object members).Shadows ↔ selectorOf? members = none ∧
      ∃ selector, (Dict.last? selectorName members).bind Selector.ofJson? = some selector := by
  constructor
  · rintro ⟨_, value, ⟨⟩, hcount, hlast, hcan⟩
    obtain ⟨selector, hselector⟩ := Selector.exists_ofJson?_iff.2 hcan
    refine ⟨?_, selector, by rw [hlast, Option.bind_some, hselector]⟩
    cases hfound : selectorOf? members with
    | none => rfl
    | some other =>
      obtain ⟨_, _, hone, -⟩ := selectorOf?_eq_some_iff.1 hfound
      rw [← Dict.length_filter_eq_count, (oneNamed_iff.1 hone).1, List.length_singleton] at hcount
      omega
  · rintro ⟨hnone, selector, hselector⟩
    obtain ⟨value, hlast, hvalue⟩ := Option.bind_eq_some_iff.1 hselector
    refine ⟨members, value, rfl, ?_, hlast, Selector.exists_ofJson?_iff.1 ⟨selector, hvalue⟩⟩
    rw [← Dict.length_filter_eq_count]
    by_contra hfew
    have hmem : (selectorName, value) ∈ members.filter fun m => m.1 == selectorName :=
      List.mem_filter.2 ⟨Dict.mem_of_last? hlast, beq_self_eq_true selectorName⟩
    -- A single member of the name is the last one, and then it is the selector of the object.
    obtain ⟨m, hm⟩ : ∃ m, (members.filter fun m => m.1 == selectorName) = [m] :=
      List.length_eq_one_iff.1 (by have := List.length_pos_of_mem hmem; omega)
    rw [hm, List.mem_singleton] at hmem
    rw [selectorOf?, hm, ← hmem] at hnone
    cases hnone.symm.trans hvalue

/-! ## Segments -/

theorem ofJson_toJson_of_not_shadows {j : Json} (h : ¬j.Shadows) :
    ofJson (ofJson j).toJson = ofJson j := by
  rcases expressible_or_unsupported j with hexpressible | hunsupported
  · exact ofJson_toJson hexpressible
  · rw [hunsupported, toJson]
    cases j with
    | string s => cases hunsupported
    | object members =>
      have hnone : selectorOf? members = none := by
        rcases ofJson_object members with ⟨_, _, _, _, _, heq⟩ | ⟨hnone, _⟩
        · cases hunsupported.symm.trans heq
        · exact hnone
      have hlast : (Dict.last? selectorName members).bind Selector.ofJson? = none := by
        rw [Option.eq_none_iff_forall_ne_some]
        exact fun selector hselector => h (shadows_object_iff.2 ⟨hnone, selector, hselector⟩)
      have hcanonical := Json.canonical_isCanonical (.object members)
      rw [Json.canonical] at hcanonical ⊢
      rw [ofJson, selectorOf?_canonicalMembers, hlast]
      exact congrArg unsupported hcanonical
    | array items => exact congrArg unsupported (Json.canonical_isCanonical (.array items))
    | _ => rfl

theorem exists_ofJson_toJson_of_shadows {j : Json} (h : j.Shadows) :
    ofJson j = .unsupported j.canonical ∧
      ∃ selector options, ofJson (ofJson j).toJson = .argument selector options := by
  obtain ⟨members, -, rfl, -⟩ := id h
  obtain ⟨hnone, selector, hselector⟩ := shadows_object_iff.1 h
  have hunsupported : ofJson (.object members) = .unsupported (Json.object members).canonical := by
    rw [ofJson, hnone]
  refine ⟨hunsupported, selector, ?_⟩
  rw [hunsupported, toJson, Json.canonical, ofJson, selectorOf?_canonicalMembers, hselector]
  exact ⟨_, rfl⟩

/-! ## Errors -/

/-- Whether a segment is compiled does not depend on where it stands. -/
theorem compile_eq_ok_at {s : Segment} {position : Nat} {fragment : Fragment}
    (h : s.compile position = .ok fragment) (other : Nat) : s.compile other = .ok fragment := by
  cases s with
  | text s => exact h
  | argument selector options =>
    obtain ⟨reference, hreference, rfl⟩ := compile_argument_eq_ok_iff.1 h
    refine compile_argument_eq_ok_iff.2 ⟨reference, ?_, rfl⟩
    cases selector with
    | index i =>
      cases i with
      | ofNat n => exact hreference
      | negSucc n => cases hreference
    | name n => exact hreference
  | unsupported value => cases h

theorem compile_argument_eq_error {selector : Selector} {options : Options} {position : Nat}
    {e : PatternError} (h : (argument selector options).compile position = .error e) :
    ∃ i, e = .negativeIndex position i := by
  cases selector with
  | index i =>
    cases i with
    | ofNat n => cases h
    | negSucc n =>
      cases h
      exact ⟨_, rfl⟩
  | name n => cases h

theorem position_of_compile {s : Segment} {position : Nat} {e : PatternError}
    (h : s.compile position = .error e) : e.position = position := by
  cases s with
  | text s => cases h
  | argument selector options =>
    obtain ⟨i, rfl⟩ := compile_argument_eq_error h
    rfl
  | unsupported value =>
    cases h
    rfl

/-- The error of a list is that of its first bad segment. -/
theorem compileAll_eq_error_iff {segments : List Segment} {position : Nat} {e : PatternError} :
    compileAll position segments = .error e ↔
      ∃ before s after, segments = before ++ s :: after ∧
        (∀ t ∈ before, ∀ p, ∃ fragment, t.compile p = .ok fragment) ∧
        s.compile (position + before.length) = .error e := by
  constructor
  · intro h
    induction segments generalizing position with
    | nil => cases h
    | cons s rest ih =>
      rw [compileAll] at h
      cases hs : s.compile position with
      | error e' =>
        rw [hs] at h
        obtain rfl := Except.error.inj h
        exact ⟨[], s, rest, rfl, List.forall_mem_nil _, hs⟩
      | ok fragment =>
        rw [hs] at h
        cases hrest : compileAll (position + 1) rest with
        | ok fragments =>
          rw [hrest] at h
          cases h
        | error e' =>
          rw [hrest] at h
          obtain rfl := Except.error.inj h
          obtain ⟨before, bad, after, rfl, hbefore, hbad⟩ := ih hrest
          refine ⟨s :: before, bad, after, rfl,
            List.forall_mem_cons.2 ⟨fun p => ⟨fragment, compile_eq_ok_at hs p⟩, hbefore⟩, ?_⟩
          rwa [List.length_cons, Nat.add_comm before.length, ← Nat.add_assoc]
  · rintro ⟨before, s, after, rfl, hbefore, hs⟩
    exact compileAll_of_first hbefore hs

/-- The position in an error is that of a segment with this error. -/
theorem getElem?_of_compileAll {segments : List Segment} {e : PatternError}
    (h : compileAll 0 segments = .error e) :
    ∃ s, segments[e.position]? = some s ∧ s.compile e.position = .error e := by
  obtain ⟨before, s, after, rfl, -, hs⟩ := compileAll_eq_error_iff.1 h
  rw [Nat.zero_add] at hs
  rw [position_of_compile hs]
  exact ⟨s, by simp, hs⟩

/-- The segments before the bad one come back as they are, and so does the bad one if it does not
shadow its selector. What is behind it does not matter. -/
theorem compileAll_reread {items : List Json} {item : Json} {e : PatternError}
    (h : compileAll 0 (items.map ofJson) = .error e) (hitem : items[e.position]? = some item)
    (hshadows : ¬item.Shadows) :
    compileAll 0 ((items.map ofJson).map fun s => ofJson s.toJson) = .error e := by
  obtain ⟨before, s, after, hsplit, hbefore, hs⟩ := compileAll_eq_error_iff.1 h
  obtain ⟨good, others, rfl, rfl, hothers⟩ := List.map_eq_append_iff.1 hsplit
  obtain ⟨bad, rest, rfl, rfl, rfl⟩ := List.map_eq_cons_iff.1 hothers
  have hposition : e.position = good.length := by
    rw [position_of_compile hs, Nat.zero_add, List.length_map]
  obtain rfl : bad = item := by
    rw [hposition] at hitem
    simpa using hitem
  have hgood : ((good.map ofJson).map fun s => ofJson s.toJson) = good.map ofJson := by
    refine (List.map_congr_left fun t ht => ?_).trans (List.map_id _)
    obtain ⟨_, hfragment⟩ := hbefore t ht 0
    obtain ⟨b, -, rfl⟩ := List.mem_map.1 ht
    exact ofJson_toJson (expressible_of_compile hfragment)
  rw [hsplit, List.map_append, List.map_cons, hgood, ofJson_toJson_of_not_shadows hshadows]
  exact compileAll_of_first hbefore hs

end Segment

/-! ## Patterns -/

namespace Pattern

theorem compile_segments_eq_error_iff {list : List Segment} {e : PatternError} :
    (segments list).compile = .error e ↔ Segment.compileAll 0 list = .error e := by
  rw [compile]
  cases Segment.compileAll 0 list with
  | error e' => simp only [Except.error.injEq]
  | ok fragments => simp only [reduceCtorEq]

theorem ofJson?_toJson_segments (list : List Segment) :
    ofJson? (segments list).toJson =
      some (.segments (list.map fun s => Segment.ofJson s.toJson)) := by
  rw [toJson, ofJson?, List.map_map]
  rfl

end Pattern

/-- Take a pattern that was decoded from a JSON value and is refused. The error is about one item of
an array. The pattern that comes back from the JSON value of the refused one is refused with the
same error, unless this item shadows its selector; then it has come back as a reference. -/
theorem rejection_survives_iff {j : Json} {p : Pattern} {e : PatternError}
    (hp : Pattern.ofJson? j = some p) (he : p.compile = .error e) :
    ∃ items item again, j = .array items ∧ items[e.position]? = some item ∧
      Pattern.ofJson? p.toJson = some (.segments again) ∧
      ((Pattern.segments again).compile = .error e ↔ ¬item.Shadows) ∧
      (item.Shadows →
        ∃ selector options, again[e.position]? = some (.argument selector options)) := by
  cases j with
  | string s =>
    cases hp
    cases he
  | array items =>
    cases hp
    have hall := Pattern.compile_segments_eq_error_iff.1 he
    obtain ⟨s, hs, herror⟩ := Segment.getElem?_of_compileAll hall
    rw [List.getElem?_map, Option.map_eq_some_iff] at hs
    obtain ⟨item, hitem, rfl⟩ := hs
    have hagain : ((items.map Segment.ofJson).map fun s => Segment.ofJson s.toJson)[e.position]? =
        some (Segment.ofJson (Segment.ofJson item).toJson) := by
      rw [List.getElem?_map, List.getElem?_map, hitem]
      rfl
    refine ⟨items, item, _, rfl, hitem, Pattern.ofJson?_toJson_segments _, ?_, fun hshadows => ?_⟩
    · rw [Pattern.compile_segments_eq_error_iff]
      constructor
      · -- A reference is only refused for a number below zero, and the item is refused as a whole.
        intro hsame hshadows
        obtain ⟨hunsupported, selector, options, hreference⟩ :=
          Segment.exists_ofJson_toJson_of_shadows hshadows
        obtain ⟨s, hs, herror'⟩ := Segment.getElem?_of_compileAll hsame
        obtain rfl := Option.some.inj (hagain.symm.trans hs)
        rw [hreference] at herror'
        obtain ⟨i, hnegative⟩ := Segment.compile_argument_eq_error herror'
        rw [hunsupported] at herror
        cases (Except.error.inj herror).trans hnegative
      · intro hshadows
        exact Segment.compileAll_reread hall hitem hshadows
    · obtain ⟨-, selector, options, hreference⟩ := Segment.exists_ofJson_toJson_of_shadows hshadows
      exact ⟨selector, options, hagain.trans (congrArg some hreference)⟩
  | _ => cases hp

/-- The items of an array of which the second names its selector twice, at the end by what selects
nothing. -/
def unshadowed : List Json :=
  [.string "Hi ", .object [("arg", .string "name"), ("arg", .null)]]

theorem rejection_of_unshadowed :
    ∃ p again e, Pattern.ofJson? (.array unshadowed) = some p ∧ p.compile = .error e ∧
      e = .unsupportedSegment 1 (.object [("arg", .null)]) ∧
      Pattern.ofJson? p.toJson = some again ∧ again.compile = .error e := by
  have hp : Pattern.ofJson? (.array unshadowed) =
      some (.segments (unshadowed.map Segment.ofJson)) := rfl
  have he : (Pattern.segments (unshadowed.map Segment.ofJson)).compile =
      .error (.unsupportedSegment 1 (.object [("arg", .null)])) := rfl
  obtain ⟨items, item, again, hitems, hitem, hagain, hiff, -⟩ := rejection_survives_iff hp he
  cases hitems
  obtain rfl := Option.some.inj hitem
  refine ⟨_, _, _, hp, he, rfl, hagain, hiff.2 ?_⟩
  rintro ⟨_, value, ⟨⟩, -, hlast, hcan⟩
  obtain rfl := Option.some.inj hlast
  exact hcan

/-- An array of one object that names its selector twice, each time by a name. -/
def shadowed : Json :=
  .array [.object [("arg", .string "a"), ("arg", .string "b")]]

/-- A refused pattern is read from a text, and the text that is written for it is that of a pattern
that is accepted. -/
theorem shadowed_comes_back_accepted :
    ∃ p again, Pattern.ofJson? shadowed = some p ∧
      p.compile = .error (.unsupportedSegment 0 (.object [("arg", .string "b")])) ∧
      Pattern.ofJson? p.toJson = some again ∧
      again.compile = .ok ⟨[.argument (.name "b") Options.none]⟩ ∧
      Pattern.parse shadowed.compact = .ok p ∧
      shadowed.compact = "[\x7b\"arg\":\"a\",\"arg\":\"b\"\x7d]" ∧
      p.toJson.compact = "[\x7b\"arg\":\"b\"\x7d]" := by
  have hp : Pattern.ofJson? shadowed =
      some (.segments [.unsupported (.object [("arg", .string "b")])]) := rfl
  have hlegible : Json.Legible Json.bracketLimit shadowed := by
    refine Json.legible_array (List.forall_mem_singleton.2 (Json.legible_object ?_))
    simp only [List.forall_mem_cons]
    exact ⟨Json.legible_string _ _, Json.legible_string _ _, List.forall_mem_nil _⟩
  have hread := hlegible [] Json.ends_nil
  rw [List.append_nil] at hread
  exact ⟨_, _, hp, rfl, rfl, rfl, Pattern.parse_of_readValue hread hp, by cbv, by cbv⟩

end Parlance

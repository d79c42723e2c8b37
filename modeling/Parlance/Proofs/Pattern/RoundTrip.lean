import Parlance.Catalog.Document
import Parlance.Pattern.Builder
import Parlance.Proofs.Json.Writing
import Parlance.Proofs.Pattern.Wire

/-!
# Patterns in JSON and back

A pattern that can be compiled is what its JSON value is decoded to, if it was decoded from one
itself or was built. The JSON text of the pattern is then read as the pattern, as long as the values
of its options are read as they are written.

Results:
1. `Segment.ofJson_toJson`: an expressible segment comes back from JSON.
2. `Segment.expressible_of_compile`, `PatternBuilder.Composed.expressible`: the segments of a
   decoded pattern that can be compiled are expressible, and so are those of a built one.
3. `pattern_round_trip`: a pattern comes back from its JSON value and from its JSON text.
-/

namespace Parlance

/-! ## Definitions -/

/-- The position of the selector has 64 bits, if it is one. -/
def Selector.Fits : Selector → Prop
  | .index i => -2 ^ 63 ≤ i ∧ i < 2 ^ 63
  | .name _ => True

/-- A segment that the wire format has: a text, or a reference none of whose options has the name
of the selector. -/
inductive Segment.Expressible : Segment → Prop
  | text (s : String) : Expressible (.text s)
  | argument {selector : Selector} {options : Options} : selector.Fits →
      options.get? selectorName = none → Expressible (.argument selector options)

/-- The segments that the calls of a builder put together. -/
inductive PatternBuilder.Composed : PatternBuilder → Prop
  | empty : Composed .empty
  | text {b : PatternBuilder} (s : String) : b.Composed → Composed (b.text s)
  | arg {b : PatternBuilder} (name : String) : b.Composed → Composed (b.arg name)
  | index {b : PatternBuilder} {i : Int} : b.Composed → (Selector.index i).Fits →
      Composed (b.index i)
  | argWith {b : PatternBuilder} {selector : Selector} {options : Options} : b.Composed →
      selector.Fits → options.get? selectorName = none → Composed (b.argWith selector options)

/-- The values of the options of a segment. -/
def Segment.optionValues : Segment → List Json
  | .argument _ options => options.members.map Prod.snd
  | _ => []

namespace Pattern

/-- A pattern that was decoded or built. -/
def Arises (p : Pattern) : Prop :=
  (∃ j, ofJson? j = some p) ∨ ∃ b : PatternBuilder, b.Composed ∧ b.build = p

/-- The values of the options of a pattern. -/
def optionValues : Pattern → List Json
  | .text _ => []
  | .segments list => list.flatMap Segment.optionValues

end Pattern

/-! ## Values -/

theorem Selector.ofJson?_toJson {selector : Selector} (h : selector.Fits) :
    ofJson? selector.toJson = some selector := by
  cases selector with
  | index i => exact ofJson?_eq_some_iff.2 (.inr ⟨i, rfl, h, rfl⟩)
  | name n => rfl

theorem Selector.fits_of_ofJson? {value : Json} {selector : Selector}
    (h : ofJson? value = some selector) : selector.Fits := by
  rcases ofJson?_eq_some_iff.1 h with ⟨n, -, rfl⟩ | ⟨i, -, hfits, rfl⟩
  · trivial
  · exact hfits

/-- Options are made of their own members. -/
theorem Options.ofMembers_members (options : Options) : ofMembers options.members = options := by
  refine eq_of_get?_eq fun name => ?_
  have hcanonical : (Json.object options.members).canonical = .object options.members :=
    options.canonical
  rw [Json.canonical] at hcanonical
  exact congrArg (Dict.get? name) (Json.object.inj hcanonical)

namespace Segment

theorem ofJson_toJson {s : Segment} (h : s.Expressible) : ofJson s.toJson = s := by
  cases h with
  | text s => rfl
  | @argument selector options hfits hnone =>
    have hone : OneNamed selectorName ((selectorName, selector.toJson) :: options.members)
        selector.toJson options.members :=
      ⟨⟨[], options.members, rfl, rfl⟩, Dict.get?_eq_none_iff.1 hnone⟩
    rw [toJson, ofJson_of_oneNamed hone (Selector.ofJson?_toJson hfits),
      Options.ofMembers_members]

/-- What is decoded from JSON is expressible, or it is kept as a canonical value. -/
theorem expressible_or_unsupported (j : Json) :
    (ofJson j).Expressible ∨ ofJson j = .unsupported j.canonical := by
  cases j with
  | string s => exact .inl (.text s)
  | object members =>
    rcases ofJson_object members with ⟨value, others, selector, hone, hselector, heq⟩ | ⟨-, heq⟩
    · rw [heq]
      refine .inl (.argument (Selector.fits_of_ofJson? hselector) ?_)
      rw [Options.get?_ofMembers, Dict.last?_eq_none_iff.2 hone.alone]
      rfl
    · exact .inr heq
  | _ => exact .inr rfl

theorem expressible_of_compile {j : Json} {position : Nat} {fragment : Fragment}
    (h : (ofJson j).compile position = .ok fragment) : (ofJson j).Expressible := by
  rcases expressible_or_unsupported j with hexpressible | hunsupported
  · exact hexpressible
  · rw [hunsupported] at h
    cases h

theorem exists_compile_of_compileAll {segments : List Segment} {position : Nat}
    {fragments : List Fragment} (h : compileAll position segments = .ok fragments) :
    ∀ s ∈ segments, ∃ place fragment, s.compile place = .ok fragment := by
  induction segments generalizing position fragments with
  | nil => exact List.forall_mem_nil _
  | cons s rest ih =>
    obtain ⟨fragment, others, hs, hrest, -⟩ := compileAll_cons_eq_ok_iff.1 h
    exact List.forall_mem_cons.2 ⟨⟨position, fragment, hs⟩, ih hrest⟩

end Segment

theorem PatternBuilder.Composed.expressible {b : PatternBuilder} (h : b.Composed) :
    ∀ s ∈ b.segments, s.Expressible := by
  induction h with
  | empty => exact List.forall_mem_nil _
  | text s _ ih => exact List.forall_mem_append.2 ⟨ih, List.forall_mem_singleton.2 (.text s)⟩
  | arg name _ ih =>
    exact List.forall_mem_append.2
      ⟨ih, List.forall_mem_singleton.2 (.argument trivial rfl)⟩
  | index _ hfits ih =>
    exact List.forall_mem_append.2 ⟨ih, List.forall_mem_singleton.2 (.argument hfits rfl)⟩
  | argWith _ hfits hnone ih =>
    exact List.forall_mem_append.2 ⟨ih, List.forall_mem_singleton.2 (.argument hfits hnone)⟩

namespace Pattern

theorem Arises.expressible {segments : List Segment} {compiled : Compiled}
    (h : (Pattern.segments segments).Arises)
    (hcompiled : (Pattern.segments segments).compile = .ok compiled) :
    ∀ s ∈ segments, s.Expressible := by
  rcases h with ⟨j, hj⟩ | ⟨b, hb, hbuild⟩
  · cases j with
    | array items =>
      cases hj
      intro s hs
      obtain ⟨place, fragment, hfragment⟩ :=
        Segment.exists_compile_of_compileAll (compile_segments_eq_ok_iff.1 hcompiled) s hs
      obtain ⟨item, _, rfl⟩ := List.mem_map.1 hs
      exact Segment.expressible_of_compile hfragment
    | _ => cases hj
  · cases hbuild
    exact hb.expressible

theorem ofJson?_toJson {p : Pattern} {compiled : Compiled} (h : p.Arises)
    (hcompiled : p.compile = .ok compiled) : ofJson? p.toJson = some p := by
  cases p with
  | text s => rfl
  | segments list =>
    have hall : ∀ s ∈ list, Segment.ofJson s.toJson = s :=
      fun s hs => Segment.ofJson_toJson (h.expressible hcompiled s hs)
    rw [toJson, ofJson?, List.map_map]
    congr 2
    exact (List.map_congr_left hall).trans (List.map_id _)

end Pattern

/-! ## Texts -/

theorem Selector.legible_toJson {selector : Selector} (h : selector.Fits) (room : Nat) :
    Json.Legible room selector.toJson := by
  cases selector with
  | index i => exact Json.legible_integer room h.1 (Int.lt_trans h.2 (by decide))
  | name n => exact Json.legible_string room n

theorem Segment.legible_toJson {s : Segment} (h : s.Expressible) {room : Nat}
    (hvalues : ∀ v ∈ s.optionValues, Json.Legible room v) : Json.Legible (room + 1) s.toJson := by
  cases h with
  | text s => exact Json.legible_string _ s
  | argument hfits _ =>
    refine Json.legible_object (List.forall_mem_cons.2 ⟨Selector.legible_toJson hfits room, ?_⟩)
    exact fun m hm => hvalues m.2 (List.mem_map_of_mem hm)

namespace Pattern

theorem legible_toJson {p : Pattern} {compiled : Compiled} (h : p.Arises)
    (hcompiled : p.compile = .ok compiled) {room : Nat}
    (hvalues : ∀ v ∈ p.optionValues, Json.Legible room v) :
    Json.Legible (room + 2) p.toJson := by
  cases p with
  | text s => exact Json.legible_string _ s
  | segments list =>
    refine Json.legible_array fun item hitem => ?_
    obtain ⟨s, hs, rfl⟩ := List.mem_map.1 hitem
    refine Segment.legible_toJson (h.expressible hcompiled s hs) fun v hv => hvalues v ?_
    exact List.mem_flatMap.2 ⟨s, hs, hv⟩

theorem parse_of_readValue {text : String} {j : Json} {p : Pattern}
    (h : Json.readValue Json.bracketLimit text.toList = .ok (j, [])) (hp : ofJson? j = some p) :
    parse text = .ok p := by
  rw [parse, h]
  dsimp only
  rw [hp]
  rfl

end Pattern

/-- Take a pattern that was decoded from some JSON value or built, with no option of the name of the
selector, and that can be compiled. It is what its JSON value is decoded to, and so this is compiled
to the same. Its JSON text is read as the pattern if the values of its options are read as they are
written, inside the two brackets that they stand in. -/
theorem pattern_round_trip {p : Pattern} {compiled : Compiled} (h : p.Arises)
    (hcompiled : p.compile = .ok compiled) :
    Pattern.ofJson? p.toJson = some p ∧
    (Pattern.ofJson? p.toJson).map Pattern.compile = some (.ok compiled) ∧
    ((∀ v ∈ p.optionValues, Json.Legible (Json.bracketLimit - 2) v) →
      Pattern.parse p.toJson.compact = .ok p) := by
  have hback := Pattern.ofJson?_toJson h hcompiled
  refine ⟨hback, ?_, fun hvalues => ?_⟩
  · rw [hback, Option.map_some, hcompiled]
  · have hread := Pattern.legible_toJson h hcompiled hvalues [] Json.ends_nil
    rw [List.append_nil] at hread
    exact Pattern.parse_of_readValue hread hback

/-- The options of a list of at most three items. -/
def threeOrFewer : Options :=
  Options.ofMembers [("type", .string "or"), ("range", .array [.integer 0, .integer 3])]

/-- A pattern that was built. -/
def shopping : Pattern :=
  ((PatternBuilder.empty.text "Buy \"").argWith (.name "items") threeOrFewer).build

theorem round_trip_of_shopping :
    shopping.Arises ∧
    shopping.compile = .ok ⟨[.text "Buy \"", .argument (.name "items") threeOrFewer]⟩ ∧
    (∀ v ∈ shopping.optionValues, Json.Legible (Json.bracketLimit - 2) v) ∧
    shopping.toJson.compact =
      "[\"Buy \\\"\",\x7b\"arg\":\"items\",\"range\":[0,3],\"type\":\"or\"\x7d]" ∧
    Pattern.ofJson? shopping.toJson = some shopping ∧
    Pattern.parse shopping.toJson.compact = .ok shopping := by
  have hname : (Selector.name "items").Fits := trivial
  have harises : shopping.Arises := Or.inr ⟨_, .argWith (.text _ .empty) hname rfl, rfl⟩
  have hcompiled : shopping.compile =
      .ok ⟨[.text "Buy \"", .argument (.name "items") threeOrFewer]⟩ := rfl
  have hvalues : ∀ v ∈ shopping.optionValues, Json.Legible (Json.bracketLimit - 2) v := by
    have hall : shopping.optionValues =
        [.array [.integer 0, .integer 3], .string "or"] := rfl
    rw [hall]
    simp only [List.forall_mem_cons]
    refine ⟨Json.legible_of_readable (.array ?_), Json.legible_string _ _, List.forall_mem_nil _⟩
    simp only [List.forall_mem_cons]
    exact ⟨.integer (by decide) (by decide), .integer (by decide) (by decide),
      List.forall_mem_nil _⟩
  obtain ⟨hback, -, hparse⟩ := pattern_round_trip harises hcompiled
  exact ⟨harises, hcompiled, hvalues, by cbv, hback, hparse hvalues⟩

end Parlance

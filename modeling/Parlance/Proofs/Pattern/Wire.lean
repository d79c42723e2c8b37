import Mathlib
import Parlance.Pattern.Wire
import Parlance.Proofs.Dict.Members

/-!
# What the wire format accepts

A JSON value is a good pattern if it is a string, or an array of strings and references to
arguments. Everything else in an array is kept until the pattern is compiled, and the first such
element is the error.

Results:
1. `Segment.compile_ofJson_iff`: an element is compiled to the fragment that it denotes.
2. `Segment.exists_isRefused_of_not_isElement`: any other element is refused with its error.
3. `Segment.compileAll_ofJson_iff`, `Segment.compileAll_of_first`: an array is compiled element by
   element, and its first error stands for all.
4. `wire_format_is_exact`: which JSON values are compiled, to what, and what becomes of the others.
-/

namespace Parlance

/-! ## Definitions -/

/-- Among the members exactly one has this name; it has this value, and the others are these. -/
structure OneNamed (name : String) (members : List (String × Json)) (value : Json)
    (others : List (String × Json)) : Prop where
  split : ∃ before after, members = before ++ (name, value) :: after ∧ others = before ++ after
  alone : name ∉ Dict.names others

namespace Json

/-- The argument that a value selects: one of a name, or one at a position that 63 bits can tell. -/
inductive Selects : Json → Reference → Prop
  | name (n : String) : Selects (.string n) (.name n)
  | position (n : Nat) : n ≤ 2 ^ 63 - 1 → Selects (.integer n) (.position n)

/-- The fragment that an element of an array denotes. Of several options of one name the last
counts. -/
inductive Denotes : Json → Fragment → Prop
  | text (s : String) : Denotes (.string s) (.text s)
  | argument {members others : List (String × Json)} {value : Json} {reference : Reference}
      {options : Options} : OneNamed selectorName members value others → value.Selects reference →
      (∀ name, options.get? name = (Dict.last? name others).map canonical) →
      Denotes (.object members) (.argument reference options)

/-- A good element of an array: a text, or an object with one member that selects an argument. -/
def IsElement : Json → Prop
  | .string _ => True
  | .object members =>
    ∃ value others, OneNamed selectorName members value others ∧
      ∃ reference, value.Selects reference
  | _ => False

/-- An object whose one selector is a whole number below zero that 64 bits can tell. -/
def SelectsNegative (j : Json) (i : Int) : Prop :=
  ∃ members others, j = .object members ∧ OneNamed selectorName members (.integer i) others ∧
    -2 ^ 63 ≤ i ∧ i < 0

/-- The error that a bad element is at a position. -/
inductive IsRefused (position : Nat) (j : Json) : PatternError → Prop
  | negative {i : Int} : j.SelectsNegative i → IsRefused position j (.negativeIndex position i)
  | unsupported : (¬∃ i, j.SelectsNegative i) →
      IsRefused position j (.unsupportedSegment position j.canonical)

/-- What a JSON value means as a pattern: a string is one text, an array has a fragment for each
element. -/
inductive Means : Json → Compiled → Prop
  | text (s : String) : Means (.string s) ⟨[.text s]⟩
  | segments {items : List Json} {fragments : List Fragment} :
      List.Forall₂ Denotes items fragments → Means (.array items) ⟨fragments⟩

/-- A good pattern. -/
def IsPattern : Json → Prop
  | .string _ => True
  | .array items => ∀ item ∈ items, item.IsElement
  | _ => False

end Json

/-! ## Options -/

namespace Options

theorem ordered (options : Options) : Dict.Ordered options.members := by
  have h := options.canonical
  rw [Json.IsCanonical, Json.canonical] at h
  rw [← Json.object.inj h]
  exact Dict.ordered_ofMembers _

/-- Options of the same names and values are the same. -/
theorem eq_of_get?_eq {options others : Options}
    (h : ∀ name, options.get? name = others.get? name) : options = others := by
  have hmembers := Dict.eq_of_get?_eq options.ordered others.ordered h
  cases options
  cases others
  cases hmembers
  rfl

theorem get?_ofMembers (name : String) (members : List (String × Json)) :
    (ofMembers members).get? name = (Dict.last? name members).map Json.canonical := by
  rw [get?, ofMembers, Dict.get?_ofMembers, Json.canonicalMembers_eq_map, Dict.last?_map]

end Options

/-! ## One name -/

theorem filter_eq_nil_iff_not_mem_names {name : String} {members : List (String × Json)} :
    (members.filter fun m => m.1 == name) = [] ↔ name ∉ Dict.names members := by
  simp only [List.filter_eq_nil_iff, beq_iff_eq, Dict.names, List.mem_map, not_exists, not_and]

theorem filter_ne_eq_self_iff {name : String} {members : List (String × Json)} :
    (members.filter fun m => m.1 != name) = members ↔ name ∉ Dict.names members := by
  simp only [List.filter_eq_self, bne_iff_ne, Dict.names, List.mem_map, not_exists, not_and, ne_eq]

theorem oneNamed_iff {name : String} {members others : List (String × Json)} {value : Json} :
    OneNamed name members value others ↔
      (members.filter fun m => m.1 == name) = [(name, value)] ∧
        others = members.filter fun m => m.1 != name := by
  constructor
  · rintro ⟨⟨before, after, rfl, rfl⟩, halone⟩
    rw [Dict.names, List.map_append, List.mem_append, not_or] at halone
    obtain ⟨hbefore, hafter⟩ := halone
    rw [List.filter_append, List.filter_append, List.filter_cons_of_pos (by simp),
      List.filter_cons_of_neg (by simp), filter_eq_nil_iff_not_mem_names.2 hbefore,
      filter_eq_nil_iff_not_mem_names.2 hafter, filter_ne_eq_self_iff.2 hbefore,
      filter_ne_eq_self_iff.2 hafter]
    exact ⟨rfl, rfl⟩
  · rintro ⟨hone, rfl⟩
    obtain ⟨before, after, rfl, hbefore, _, hafter⟩ := List.filter_eq_cons_iff.1 hone
    have hbefore' : name ∉ Dict.names before :=
      filter_eq_nil_iff_not_mem_names.1 (List.filter_eq_nil_iff.2 hbefore)
    have hafter' : name ∉ Dict.names after := filter_eq_nil_iff_not_mem_names.1 hafter
    have hothers : (before ++ (name, value) :: after).filter (fun m => m.1 != name) =
        before ++ after := by
      rw [List.filter_append, List.filter_cons_of_neg (by simp), filter_ne_eq_self_iff.2 hbefore',
        filter_ne_eq_self_iff.2 hafter']
    rw [hothers]
    refine ⟨⟨before, after, rfl, rfl⟩, ?_⟩
    rw [Dict.names, List.map_append, List.mem_append, not_or]
    exact ⟨hbefore', hafter'⟩

/-! ## Selectors -/

theorem Segment.selectorOf?_eq_some_iff {members : List (String × Json)} {selector : Selector} :
    selectorOf? members = some selector ↔
      ∃ value others, OneNamed selectorName members value others ∧
        Selector.ofJson? value = some selector := by
  unfold selectorOf?
  constructor
  · intro h
    split at h
    · next name value heq =>
      have hname : name = selectorName := by
        have hmem : (name, value) ∈ members.filter fun m => m.1 == selectorName := by
          rw [heq]
          exact List.mem_singleton_self _
        simpa using (List.mem_filter.1 hmem).2
      subst hname
      exact ⟨value, _, oneNamed_iff.2 ⟨heq, rfl⟩, h⟩
    · cases h
  · rintro ⟨value, others, hone, hselector⟩
    rw [(oneNamed_iff.1 hone).1]
    exact hselector

theorem fitsSigned_iff {n : Int} : fitsSigned 64 n = true ↔ -2 ^ 63 ≤ n ∧ n < 2 ^ 63 := by
  have htwo : (twoTo (64 - 1) : Int) = 2 ^ 63 := by decide
  rw [fitsSigned, htwo, Bool.and_eq_true, decide_eq_true_eq, decide_eq_true_eq]

theorem Selector.ofJson?_eq_some_iff {value : Json} {selector : Selector} :
    ofJson? value = some selector ↔
      (∃ n, value = .string n ∧ selector = .name n) ∨
        ∃ i : Int, value = .integer i ∧ (-2 ^ 63 ≤ i ∧ i < 2 ^ 63) ∧ selector = .index i := by
  constructor
  · intro h
    cases value with
    | string n =>
      cases h
      exact .inl ⟨n, rfl, rfl⟩
    | integer i =>
      rw [ofJson?] at h
      split at h
      · next hfits =>
        cases h
        exact .inr ⟨i, rfl, fitsSigned_iff.1 hfits, rfl⟩
      · cases h
    | _ => cases h
  · rintro (⟨n, rfl, rfl⟩ | ⟨i, rfl, hfits, rfl⟩)
    · rfl
    · rw [ofJson?, if_pos (fitsSigned_iff.2 hfits)]

/-- A selector is compiled to the reference that its value selects. -/
theorem Selector.compile_iff {value : Json} {selector : Selector} {position : Nat}
    (h : Selector.ofJson? value = some selector) {reference : Reference} :
    selector.compile position = .ok reference ↔ value.Selects reference := by
  rcases ofJson?_eq_some_iff.1 h with ⟨n, rfl, rfl⟩ | ⟨i, rfl, ⟨-, hhigh⟩, rfl⟩
  · constructor
    · rintro ⟨⟩
      exact .name n
    · rintro ⟨⟩
      rfl
  · cases i with
    | ofNat n =>
      have hbound : (n : Int) < 2 ^ 63 := hhigh
      constructor
      · rintro ⟨⟩
        exact .position n (by omega)
      · rintro ⟨⟩
        rfl
    | negSucc n => exact ⟨nofun, nofun⟩

theorem Selector.exists_of_selects {value : Json} {reference : Reference}
    (h : value.Selects reference) : ∃ selector, Selector.ofJson? value = some selector := by
  cases h with
  | name n => exact ⟨.name n, rfl⟩
  | position n hn =>
    exact ⟨.index n, ofJson?_eq_some_iff.2 (.inr ⟨n, rfl, ⟨by omega, by omega⟩, rfl⟩)⟩

/-- A selector that cannot be compiled is a number below zero. -/
theorem Selector.compile_eq_error {value : Json} {selector : Selector} {position : Nat}
    {e : PatternError} (h : Selector.ofJson? value = some selector)
    (he : selector.compile position = .error e) :
    ∃ i : Int, value = .integer i ∧ -2 ^ 63 ≤ i ∧ i < 0 ∧ e = .negativeIndex position i := by
  rcases ofJson?_eq_some_iff.1 h with ⟨n, rfl, rfl⟩ | ⟨i, rfl, ⟨hlow, -⟩, rfl⟩
  · cases he
  · cases i with
    | ofNat n => cases he
    | negSucc n =>
      cases he
      exact ⟨_, rfl, hlow, Int.negSucc_lt_zero n, rfl⟩

/-! ## Segments -/

namespace Segment

theorem compile_argument_eq_ok_iff {selector : Selector} {options : Options} {position : Nat}
    {fragment : Fragment} :
    (argument selector options).compile position = .ok fragment ↔
      ∃ reference, selector.compile position = .ok reference ∧
        fragment = .argument reference options := by
  rw [compile]
  cases selector.compile position with
  | error e => exact ⟨nofun, nofun⟩
  | ok reference =>
    constructor
    · rintro ⟨⟩
      exact ⟨reference, rfl, rfl⟩
    · rintro ⟨_, ⟨⟩, rfl⟩
      rfl

theorem compileAll_cons_eq_ok_iff {s : Segment} {rest : List Segment} {position : Nat}
    {fragments : List Fragment} :
    compileAll position (s :: rest) = .ok fragments ↔
      ∃ fragment others, s.compile position = .ok fragment ∧
        compileAll (position + 1) rest = .ok others ∧ fragments = fragment :: others := by
  rw [compileAll]
  cases s.compile position with
  | error e => exact ⟨nofun, nofun⟩
  | ok fragment =>
    cases compileAll (position + 1) rest with
    | error e => exact ⟨nofun, nofun⟩
    | ok others =>
      constructor
      · rintro ⟨⟩
        exact ⟨fragment, others, rfl, rfl, rfl⟩
      · rintro ⟨_, _, ⟨⟩, ⟨⟩, rfl⟩
        rfl

theorem ofJson_of_oneNamed {members others : List (String × Json)} {value : Json}
    {selector : Selector} (hone : OneNamed selectorName members value others)
    (hselector : Selector.ofJson? value = some selector) :
    ofJson (.object members) = .argument selector (Options.ofMembers others) := by
  have hfound : selectorOf? members = some selector :=
    selectorOf?_eq_some_iff.2 ⟨value, others, hone, hselector⟩
  rw [ofJson, hfound, (oneNamed_iff.1 hone).2]

/-- An object is a reference, by its one selector, or it is not supported. -/
theorem ofJson_object (members : List (String × Json)) :
    (∃ value others selector, OneNamed selectorName members value others ∧
      Selector.ofJson? value = some selector ∧
      ofJson (.object members) = .argument selector (Options.ofMembers others)) ∨
    selectorOf? members = none ∧
      ofJson (.object members) = .unsupported (Json.object members).canonical := by
  cases hfound : selectorOf? members with
  | none =>
    refine .inr ⟨rfl, ?_⟩
    rw [ofJson, hfound]
  | some selector =>
    obtain ⟨value, others, hone, hselector⟩ := selectorOf?_eq_some_iff.1 hfound
    exact .inl ⟨value, others, selector, hone, hselector, ofJson_of_oneNamed hone hselector⟩

theorem selectorOf?_of_selectsNegative {members : List (String × Json)} {i : Int}
    (h : (Json.object members).SelectsNegative i) : selectorOf? members = some (.index i) := by
  obtain ⟨_, others, ⟨⟩, hone, hlow, hneg⟩ := h
  have hselector : Selector.ofJson? (.integer i) = some (.index i) :=
    Selector.ofJson?_eq_some_iff.2 (.inr ⟨i, rfl, ⟨hlow, by omega⟩, rfl⟩)
  exact selectorOf?_eq_some_iff.2 ⟨_, others, hone, hselector⟩

/-- An element is compiled to the fragment that it denotes. -/
theorem compile_ofJson_iff {j : Json} {position : Nat} {fragment : Fragment} :
    (ofJson j).compile position = .ok fragment ↔ j.Denotes fragment := by
  cases j with
  | string s =>
    constructor
    · rintro ⟨⟩
      exact .text s
    · rintro ⟨⟩
      rfl
  | object members =>
    constructor
    · intro h
      rcases ofJson_object members with ⟨value, others, selector, hone, hselector, heq⟩ | ⟨-, heq⟩
      · rw [heq, compile_argument_eq_ok_iff] at h
        obtain ⟨reference, hcompile, rfl⟩ := h
        exact .argument hone ((Selector.compile_iff hselector).1 hcompile)
          fun name => Options.get?_ofMembers name others
      · rw [heq] at h
        cases h
    · intro h
      cases h with
      | @argument _ others value reference options hone hselects hoptions =>
        obtain ⟨selector, hselector⟩ := Selector.exists_of_selects hselects
        have hsame : Options.ofMembers others = options :=
          Options.eq_of_get?_eq fun name =>
            (Options.get?_ofMembers name others).trans (hoptions name).symm
        rw [ofJson_of_oneNamed hone hselector, hsame, compile_argument_eq_ok_iff]
        exact ⟨reference, (Selector.compile_iff hselector).2 hselects, rfl⟩
  | _ => exact ⟨nofun, nofun⟩

end Segment

theorem Json.isElement_iff {j : Json} : j.IsElement ↔ ∃ fragment, j.Denotes fragment := by
  cases j with
  | string s => exact ⟨fun _ => ⟨_, .text s⟩, fun _ => trivial⟩
  | object members =>
    constructor
    · rintro ⟨value, others, hone, reference, hselects⟩
      exact ⟨_, .argument hone hselects fun name => Options.get?_ofMembers name others⟩
    · rintro ⟨_, hdenotes⟩
      cases hdenotes with
      | argument hone hselects _ => exact ⟨_, _, hone, _, hselects⟩
  | _ => exact ⟨nofun, nofun⟩

namespace Segment

/-- An element that denotes nothing is refused. -/
theorem exists_isRefused_of_not_isElement {j : Json} (h : ¬j.IsElement) (position : Nat) :
    ∃ e, j.IsRefused position e ∧ (ofJson j).compile position = .error e := by
  cases j with
  | string s => exact absurd trivial h
  | object members =>
    rcases ofJson_object members with
      ⟨value, others, selector, hone, hselector, heq⟩ | ⟨hnone, heq⟩
    · -- Only a number below zero is a selector and selects nothing.
      rw [heq, compile]
      cases hcompile : selector.compile position with
      | ok reference =>
        exact absurd ⟨value, others, hone, reference,
          (Selector.compile_iff hselector).1 hcompile⟩ h
      | error e =>
        obtain ⟨i, rfl, hlow, hneg, rfl⟩ := Selector.compile_eq_error hselector hcompile
        exact ⟨_, .negative ⟨members, others, rfl, hone, hlow, hneg⟩, rfl⟩
    · rw [heq]
      refine ⟨_, .unsupported ?_, rfl⟩
      rintro ⟨i, hnegative⟩
      rw [selectorOf?_of_selectsNegative hnegative] at hnone
      cases hnone
  | _ =>
    refine ⟨_, .unsupported ?_, rfl⟩
    rintro ⟨i, _, _, ⟨⟩, _⟩

/-! ## Arrays -/

theorem compileAll_ofJson_iff {items : List Json} {position : Nat} {fragments : List Fragment} :
    compileAll position (items.map ofJson) = .ok fragments ↔
      List.Forall₂ Json.Denotes items fragments := by
  induction items generalizing position fragments with
  | nil =>
    constructor
    · rintro ⟨⟩
      exact .nil
    · rintro ⟨⟩
      rfl
  | cons item rest ih =>
    rw [List.map_cons, compileAll_cons_eq_ok_iff]
    constructor
    · rintro ⟨fragment, others, hitem, hrest, rfl⟩
      exact .cons (compile_ofJson_iff.1 hitem) (ih.1 hrest)
    · intro h
      cases h with
      | cons hitem hrest =>
        exact ⟨_, _, compile_ofJson_iff.2 hitem, ih.2 hrest, rfl⟩

/-- The first error stands for all. -/
theorem compileAll_of_first {before after : List Segment} {s : Segment} {position : Nat}
    {e : PatternError}
    (hbefore : ∀ t ∈ before, ∀ p, ∃ fragment, t.compile p = .ok fragment)
    (hs : s.compile (position + before.length) = .error e) :
    compileAll position (before ++ s :: after) = .error e := by
  induction before generalizing position with
  | nil =>
    rw [List.nil_append, compileAll, show s.compile position = .error e from hs]
  | cons t rest ih =>
    obtain ⟨fragment, ht⟩ := hbefore t List.mem_cons_self position
    have hs' : s.compile (position + 1 + rest.length) = .error e := by
      rw [← hs, List.length_cons]
      congr 1
      omega
    rw [List.cons_append, compileAll, ht]
    dsimp only
    rw [ih (fun t' ht' => hbefore t' (List.mem_cons_of_mem t ht')) hs']

end Segment

/-! ## Patterns -/

theorem Json.forall_isElement_iff {items : List Json} :
    (∀ item ∈ items, item.IsElement) ↔ ∃ fragments, List.Forall₂ Json.Denotes items fragments := by
  induction items with
  | nil => simp
  | cons item rest ih =>
    rw [List.forall_mem_cons, ih, Json.isElement_iff]
    constructor
    · rintro ⟨⟨fragment, hitem⟩, fragments, hrest⟩
      exact ⟨fragment :: fragments, .cons hitem hrest⟩
    · rintro ⟨_, hall⟩
      cases hall with
      | cons hitem hrest => exact ⟨⟨_, hitem⟩, _, hrest⟩

theorem Json.isPattern_iff {j : Json} : j.IsPattern ↔ ∃ compiled, j.Means compiled := by
  cases j with
  | string s => exact ⟨fun _ => ⟨_, .text s⟩, fun _ => trivial⟩
  | array items =>
    constructor
    · intro h
      obtain ⟨fragments, hall⟩ := Json.forall_isElement_iff.1 h
      exact ⟨_, .segments hall⟩
    · rintro ⟨_, h⟩
      cases h with
      | segments hall => exact Json.forall_isElement_iff.2 ⟨_, hall⟩
  | _ => exact ⟨nofun, nofun⟩

theorem Json.exists_first_bad {items : List Json} (h : ∃ item ∈ items, ¬item.IsElement) :
    ∃ before item after, items = before ++ item :: after ∧ (∀ b ∈ before, b.IsElement) ∧
      ¬item.IsElement := by
  classical
  obtain ⟨item, hmem, hitem⟩ := h
  have hfound : (items.find? fun item => ¬item.IsElement).isSome :=
    List.find?_isSome.2 ⟨item, hmem, by simpa using hitem⟩
  obtain ⟨first, hfirst⟩ := Option.isSome_iff_exists.1 hfound
  obtain ⟨hbad, before, after, rfl, hbefore⟩ := List.find?_eq_some_iff_append.1 hfirst
  exact ⟨before, first, after, rfl, fun b hb => by simpa using hbefore b hb, by simpa using hbad⟩

theorem Pattern.compile_segments_eq_ok_iff {list : List Segment} {compiled : Compiled} :
    (Pattern.segments list).compile = .ok compiled ↔
      Segment.compileAll 0 list = .ok compiled.fragments := by
  rw [compile]
  cases Segment.compileAll 0 list with
  | error e => exact ⟨nofun, nofun⟩
  | ok fragments =>
    constructor
    · rintro ⟨⟩
      rfl
    · intro h
      rw [Except.ok.inj h]

/-- What a pattern is compiled to is what its JSON value means. -/
theorem Pattern.compile_ofJson?_iff {j : Json} {compiled : Compiled} :
    (∃ p, ofJson? j = some p ∧ p.compile = .ok compiled) ↔ j.Means compiled := by
  cases j with
  | string s =>
    constructor
    · rintro ⟨_, ⟨⟩, ⟨⟩⟩
      exact .text s
    · rintro ⟨⟩
      exact ⟨_, rfl, rfl⟩
  | array items =>
    constructor
    · rintro ⟨_, ⟨⟩, h⟩
      exact .segments (Segment.compileAll_ofJson_iff.1 (compile_segments_eq_ok_iff.1 h))
    · intro h
      cases h with
      | segments hall =>
        exact ⟨_, rfl, compile_segments_eq_ok_iff.2 (Segment.compileAll_ofJson_iff.2 hall)⟩
  | _ => exact ⟨nofun, nofun⟩

/-- A JSON value is decoded and compiled exactly if it is a good pattern, and then to what it means.
A value that is neither a string nor an array is not decoded. An array with a bad element is decoded
and not compiled; its first bad element is the error. -/
theorem wire_format_is_exact (j : Json) :
    ((∃ p compiled, Pattern.ofJson? j = some p ∧ p.compile = .ok compiled) ↔ j.IsPattern) ∧
    (∀ compiled,
      (∃ p, Pattern.ofJson? j = some p ∧ p.compile = .ok compiled) ↔ j.Means compiled) ∧
    ((∀ s, j ≠ .string s) → (∀ items, j ≠ .array items) → Pattern.ofJson? j = none) ∧
    ∀ items, j = .array items → (∃ item ∈ items, ¬item.IsElement) →
      ∃ before item after p e, items = before ++ item :: after ∧ (∀ b ∈ before, b.IsElement) ∧
        ¬item.IsElement ∧ item.IsRefused before.length e ∧ Pattern.ofJson? j = some p ∧
        p.compile = .error e := by
  refine ⟨?_, fun compiled => Pattern.compile_ofJson?_iff, fun hstring harray => ?_, ?_⟩
  · rw [Json.isPattern_iff, exists_comm]
    simp only [Pattern.compile_ofJson?_iff]
  · cases j with
    | string s => exact absurd rfl (hstring s)
    | array items => exact absurd rfl (harray items)
    | _ => rfl
  · rintro items rfl hbad
    obtain ⟨before, item, after, rfl, hbefore, hitem⟩ := Json.exists_first_bad hbad
    obtain ⟨e, hrefused, herror⟩ :=
      Segment.exists_isRefused_of_not_isElement hitem before.length
    refine ⟨before, item, after, _, e, rfl, hbefore, hitem, hrefused, rfl, ?_⟩
    have hall : Segment.compileAll 0 ((before ++ item :: after).map Segment.ofJson) = .error e := by
      rw [List.map_append, List.map_cons]
      refine Segment.compileAll_of_first (fun t ht position => ?_) ?_
      · obtain ⟨b, hb, rfl⟩ := List.mem_map.1 ht
        obtain ⟨fragment, hdenotes⟩ := Json.isElement_iff.1 (hbefore b hb)
        exact ⟨fragment, Segment.compile_ofJson_iff.2 hdenotes⟩
      · rw [Nat.zero_add, List.length_map]
        exact herror
    rw [Pattern.compile, hall]

/-- The elements of an array of which the first is good and the others are not. -/
def mixed : List Json :=
  [.object [("type", .string "or"), ("arg", .string "items"), ("type", .string "and")],
    .object [("arg", .integer (-1))], .null]

theorem wire_format_of_mixed :
    (∃ item ∈ mixed, ¬item.IsElement) ∧ ¬(Json.array mixed).IsPattern ∧
    ∃ before item after p, mixed = before ++ item :: after ∧ (∀ b ∈ before, b.IsElement) ∧
      item.IsRefused before.length (.negativeIndex 1 (-1)) ∧
      Pattern.ofJson? (.array mixed) = some p ∧ p.compile = .error (.negativeIndex 1 (-1)) := by
  have hbad : ∃ item ∈ mixed, ¬item.IsElement := ⟨.null, by simp [mixed], id⟩
  have hcompile : (Pattern.segments (mixed.map Segment.ofJson)).compile =
      .error (.negativeIndex 1 (-1)) := rfl
  have hwire := wire_format_is_exact (.array mixed)
  obtain ⟨before, item, after, p, e, hsplit, hbefore, -, hrefused, hp, he⟩ :=
    hwire.2.2.2 mixed rfl hbad
  obtain rfl := Option.some.inj hp
  obtain rfl := Except.error.inj (he.symm.trans hcompile)
  refine ⟨hbad, fun hpattern => ?_, before, item, after, _, hsplit, hbefore, hrefused, hp, he⟩
  obtain ⟨p, compiled, hp', hcompiled⟩ := hwire.1.2 hpattern
  obtain rfl := Option.some.inj hp'
  cases hcompile.symm.trans hcompiled

end Parlance

import Parlance.Proofs.Catalog.Names
import Parlance.Proofs.Console.Loading

/-!
# Labels at keys

The label of a pattern that cannot be compiled should stand at the name of its member. It is put at
the leftmost place of the document where the key stands in quotes, whatever that is: it may be the
name of an earlier member, a text, a name deeper in the document, or what is between two strings. A
key that is written with escapes need not stand anywhere in quotes, and then the label is empty.

Results:
1. `keySpan_cases`: what the search for the key comes to.
2. `coversName_keySpan_iff`: when the label is at a name of the member.
3. `label_of_bad_pattern`: the same for every document with a pattern that cannot be compiled.
-/

namespace Parlance

/-! ## Definitions -/

/-- `before` is what comes before the leftmost place of `part` in a text. -/
structure Leftmost (part text before : List Char) : Prop where
  occurs : before ++ part <+: text
  least : ∀ other, other ++ part <+: text → before <+: other

/-- A key in quotes. -/
def quotedKey (key : String) : List Char :=
  '"' :: key.toList ++ ['"']

/-- A span of a document covers a name, that of a member with this key and this pattern. -/
def Span.CoversName (s : Span) (text key : String) (p : Pattern) : Prop :=
  ∃ before name behind value, Document.NameAt text.toList before name behind key value ∧
    Pattern.ofJson? value = some p ∧ s = ⟨byteCount before, byteCount name⟩

/-! ## The leftmost place -/

section

variable {part text : List Char}

theorem leftmost_nil (h : part <+: text) : Leftmost part text [] :=
  ⟨h, fun _ _ => List.nil_prefix⟩

theorem Leftmost.eq_nil {before : List Char} (h : Leftmost part text before)
    (hbegins : part <+: text) : before = [] :=
  List.prefix_nil.1 (h.least [] hbegins)

/-- If a text does not begin with `part`, the leftmost place is in its rest. -/
theorem leftmost_cons_iff {c : Char} {rest before : List Char} (h : ¬part <+: c :: rest) :
    Leftmost part (c :: rest) before ↔ ∃ more, before = c :: more ∧ Leftmost part rest more := by
  constructor
  · intro hleft
    cases before with
    | nil => exact absurd hleft.occurs h
    | cons d more =>
      obtain ⟨rfl, hmore⟩ := List.cons_prefix_cons.1 hleft.occurs
      refine ⟨more, rfl, hmore, fun other hother => ?_⟩
      exact (List.cons_prefix_cons.1 (hleft.least (d :: other) (List.cons_prefix_cons.2
        ⟨rfl, hother⟩))).2
  · rintro ⟨more, rfl, hleft⟩
    refine ⟨List.cons_prefix_cons.2 ⟨rfl, hleft.occurs⟩, fun other hother => ?_⟩
    cases other with
    | nil => exact absurd hother h
    | cons d others =>
      obtain ⟨rfl, hothers⟩ := List.cons_prefix_cons.1 hother
      exact List.cons_prefix_cons.2 ⟨rfl, hleft.least others hothers⟩

/-- What a text contains, it contains at a leftmost place. -/
theorem exists_leftmost (h : part <:+: text) : ∃ before, Leftmost part text before := by
  induction text with
  | nil =>
    obtain rfl := List.infix_nil.1 h
    exact ⟨[], leftmost_nil List.nil_prefix⟩
  | cons c rest ih =>
    by_cases hbegins : part <+: c :: rest
    · exact ⟨[], leftmost_nil hbegins⟩
    · obtain ⟨before, hbefore⟩ := ih ((List.infix_cons_iff.1 h).resolve_left hbegins)
      exact ⟨c :: before, (leftmost_cons_iff hbegins).2 ⟨before, rfl, hbefore⟩⟩

/-! ## The search -/

theorem bytesBefore?_of_begins (h : part <+: text) : bytesBefore? part text = some 0 := by
  cases text with
  | nil =>
    rw [List.prefix_nil.1 h]
    rfl
  | cons c rest => rw [bytesBefore?, if_pos (List.isPrefixOf_iff_prefix.2 h)]

theorem bytesBefore?_cons {c : Char} {rest : List Char} (h : ¬part <+: c :: rest) :
    bytesBefore? part (c :: rest) = (bytesBefore? part rest).map (c.utf8Size + ·) := by
  rw [bytesBefore?, if_neg fun hbegins => h (List.isPrefixOf_iff_prefix.1 hbegins)]

theorem bytesBefore?_of_leftmost {before : List Char} (h : Leftmost part text before) :
    bytesBefore? part text = some (byteCount before) := by
  induction before generalizing text with
  | nil => exact bytesBefore?_of_begins h.occurs
  | cons c more ih =>
    cases text with
    | nil => cases List.prefix_nil.1 h.occurs
    | cons d rest =>
      obtain ⟨rfl, -⟩ := List.cons_prefix_cons.1 h.occurs
      have hbegins : ¬part <+: c :: rest := fun hbegins => nomatch h.eq_nil hbegins
      obtain ⟨_, ⟨⟩, hmore⟩ := (leftmost_cons_iff hbegins).1 h
      rw [bytesBefore?_cons hbegins, ih hmore]
      rfl

theorem bytesBefore?_of_absent (h : ¬part <:+: text) : bytesBefore? part text = none := by
  induction text with
  | nil =>
    rw [bytesBefore?, if_neg]
    intro hempty
    exact h (List.isEmpty_iff.1 hempty ▸ List.nil_infix)
  | cons c rest ih =>
    have hbegins : ¬part <+: c :: rest := fun hbegins => h hbegins.isInfix
    have hrest : ¬part <:+: rest := fun hrest => h (List.infix_cons hrest)
    rw [bytesBefore?_cons hbegins, ih hrest]
    rfl

end

section

variable {text : List Char} {key : String}

theorem keySpan_of_leftmost {before : List Char} (h : Leftmost (quotedKey key) text before) :
    keySpan text key = ⟨byteCount before, byteCount (quotedKey key)⟩ := by
  have hsearch := bytesBefore?_of_leftmost h
  rw [quotedKey] at hsearch ⊢
  rw [keySpan, hsearch]

theorem keySpan_of_absent (h : ¬quotedKey key <:+: text) : keySpan text key = ⟨0, 0⟩ := by
  have hsearch := bytesBefore?_of_absent h
  rw [quotedKey] at hsearch
  rw [keySpan, hsearch]

/-- The label stands at the leftmost place of the key in quotes, or at the beginning if there is
none. -/
theorem keySpan_cases (text : List Char) (key : String) :
    (∃ before, Leftmost (quotedKey key) text before ∧
      keySpan text key = ⟨byteCount before, byteCount (quotedKey key)⟩) ∨
    ¬quotedKey key <:+: text ∧ keySpan text key = ⟨0, 0⟩ := by
  by_cases hinside : quotedKey key <:+: text
  · obtain ⟨before, hleft⟩ := exists_leftmost hinside
    exact Or.inl ⟨before, hleft, keySpan_of_leftmost hleft⟩
  · exact Or.inr ⟨hinside, keySpan_of_absent hinside⟩

end

/-! ## Labels and names -/

section

variable {text key : String} {p : Pattern}

/-- The label is at a name of the member exactly if a name is written as the key in quotes and is
the leftmost place where this stands. -/
theorem coversName_keySpan_iff :
    (keySpan text.toList key).CoversName text key p ↔
      ∃ before behind value,
        Document.NameAt text.toList before (quotedKey key) behind key value ∧
        Pattern.ofJson? value = some p ∧ Leftmost (quotedKey key) text.toList before := by
  constructor
  · rintro ⟨before, name, behind, value, hname, hp, hspan⟩
    rcases keySpan_cases text.toList key with ⟨front, hleft, heq⟩ | ⟨-, heq⟩
    · obtain ⟨hbefore, hlength⟩ := Span.mk.inj (heq.symm.trans hspan)
      obtain ⟨back, htext⟩ := hleft.occurs
      have hsame := htext.trans hname.text_eq
      rw [List.append_assoc, List.append_assoc] at hsame
      obtain rfl := eq_of_byteCount_eq hsame hbefore
      obtain rfl := eq_of_byteCount_eq (List.append_cancel_left hsame) hlength
      exact ⟨front, behind, value, hname, hp, hleft⟩
    · -- A name has its quotes at least.
      obtain ⟨body, rfl, -⟩ := hname.quoted
      have hlength := (Span.mk.inj (heq.symm.trans hspan)).2
      rw [byteCount] at hlength
      exact absurd hlength (Nat.ne_of_lt (Nat.add_pos_left (Char.utf8Size_pos _) _))
  · rintro ⟨before, behind, value, hname, hp, hleft⟩
    exact ⟨before, quotedKey key, behind, value, hname, hp, keySpan_of_leftmost hleft⟩

/-- Every last pattern has a name that a label could be at. -/
theorem exists_coversName {fields : List (String × Json)} (hobject : Document.IsObject text fields)
    (hlast : Document.LastPattern fields key p) : ∃ s : Span, s.CoversName text key p := by
  obtain ⟨value, hvalue, hp⟩ := hlast
  obtain ⟨before, name, behind, hname⟩ :=
    (Document.mem_iff_exists_nameAt hobject).1 (Dict.mem_of_last? hvalue)
  exact ⟨_, before, name, behind, value, hname, hp, rfl⟩

end

/-! ## Labels of files -/

theorem loadAt_of_compileMembers {files : Files} {path locale text : String}
    {members : List (String × Pattern)} {e : LoadError} (hstem : Path.stem? path = some locale)
    (hread : (files path).read = .ok text) (hparse : Document.parse text = .ok members)
    (he : compileMembers locale (Dict.ofMembers members) = .error e) (c : Catalog) :
    c.loadAt files path = .error (.ofLoad path text e) := by
  unfold Catalog.loadAt
  rw [hstem]
  dsimp only
  rw [hread]
  dsimp only
  rw [Catalog.load_of_parse hparse, he]

/-- A document with a last pattern that cannot be compiled is refused by every command, for the
smallest key that has one. The document has a name for this key and this pattern. The label stands
at the leftmost place of the key in quotes, or is empty if there is none. So it is at a name for the
key and the pattern exactly if such a name is written without escapes and is this leftmost place. -/
theorem label_of_bad_pattern {files : Files} {path locale text : String}
    {fields : List (String × Json)} (hstem : Path.stem? path = some locale)
    (hread : (files path).read = .ok text) (hobject : Document.IsObject text fields)
    (hpatterns : ∀ f ∈ fields, (Pattern.ofJson? f.2).isSome)
    (hbad : ¬∀ key p, Document.LastPattern fields key p → p.Compiles) :
    ∃ key p fault span, Document.LastPattern fields key p ∧ p.compile = .error fault ∧
      (∀ key' p', Document.LastPattern fields key' p' → key' < key → p'.Compiles) ∧
      (∀ c : Catalog, c.loadAt files path = .error (.pattern path text key fault)) ∧
      (FileError.pattern path text key fault).span? = some span ∧
      (∃ meant : Span, meant.CoversName text key p) ∧
      ((∃ before, Leftmost (quotedKey key) text.toList before ∧
          span = ⟨byteCount before, byteCount (quotedKey key)⟩) ∨
        ¬quotedKey key <:+: text.toList ∧ span = ⟨0, 0⟩) ∧
      (span.CoversName text key p ↔ ∃ before behind value,
        Document.NameAt text.toList before (quotedKey key) behind key value ∧
        Pattern.ofJson? value = some p ∧ Leftmost (quotedKey key) text.toList before) := by
  obtain ⟨members, hparse, hmembers⟩ := Document.parse_of_isObject hobject hpatterns
  obtain ⟨key, p, fault, hlast, hp, hsmaller, he⟩ :=
    exists_smallest_of_not_compiles hmembers hbad locale
  exact ⟨key, p, fault, keySpan text.toList key, hlast, hp, hsmaller,
    loadAt_of_compileMembers hstem hread hparse he, rfl, exists_coversName hobject hlast,
    keySpan_cases text.toList key, coversName_keySpan_iff⟩

/-- A document whose second pattern cannot be compiled. -/
def secondBad : String := "\x7b\"ü\":\"x\",\"b\":[null]\x7d"

/-- The members of `secondBad`. -/
def secondBadFields : List (String × Json) :=
  [("ü", .string "x"), ("b", .array [.null])]

theorem nameAt_secondBad :
    Document.NameAt secondBad.toList "\x7b\"ü\":\"x\",".toList (quotedKey "b")
      ":[null]\x7d".toList "b" (.array [.null]) := by
  have hbracket : Json.skipSpace secondBad.toList =
      '\x7b' :: "\"ü\":\"x\",\"b\":[null]\x7d".toList := by decide +kernel
  have hfirst : Json.nextName true "\"ü\":\"x\",\"b\":[null]\x7d".toList =
      .ok (some "ü", "\"x\",\"b\":[null]\x7d".toList) := by cbv
  have hvalue : Json.readValue (Json.bracketLimit - 1) "\"x\",\"b\":[null]\x7d".toList =
      .ok (.string "x", ",\"b\":[null]\x7d".toList) := by cbv
  have hcomma : Json.skipSpace ",\"b\":[null]\x7d".toList = ',' :: "\"b\":[null]\x7d".toList := by
    decide +kernel
  have hcolon : Json.skipSpace ":[null]\x7d".toList = ':' :: "[null]\x7d".toList := by
    decide +kernel
  exact {
    text_eq := by decide +kernel
    quoted := ⟨['b', '"'], by decide +kernel, by cbv⟩
    valued := ⟨"[null]\x7d".toList, ['\x7d'], hcolon, by cbv⟩
    opens := ⟨_, _, (Document.Passes.bracket hbracket).member hfirst hvalue,
      .next hcomma (by decide +kernel)⟩ }

theorem label_of_secondBad :
    let files := Files.only "de.json" secondBad
    Path.stem? "de.json" = some "de" ∧ (files "de.json").read = .ok secondBad ∧
    Document.IsObject secondBad secondBadFields ∧
    (∀ f ∈ secondBadFields, (Pattern.ofJson? f.2).isSome) ∧
    (¬∀ key p, Document.LastPattern secondBadFields key p → p.Compiles) ∧
    ∃ p fault, p.compile = .error fault ∧
      (∀ c : Catalog, c.loadAt files "de.json" =
        .error (.pattern "de.json" secondBad "b" fault)) ∧
      (FileError.pattern "de.json" secondBad "b" fault).span? = some ⟨10, 3⟩ ∧
      Span.CoversName ⟨10, 3⟩ secondBad "b" p := by
  intro files
  have hstem : Path.stem? "de.json" = some "de" := by cbv
  have hread : (files "de.json").read = .ok secondBad := Files.read_only _ _
  have hobject : Document.IsObject secondBad secondBadFields := by
    unfold Document.IsObject
    cbv
  have hpatterns : ∀ f ∈ secondBadFields, (Pattern.ofJson? f.2).isSome := by
    simp [secondBadFields, Pattern.ofJson?]
  have hbad : ¬∀ key p, Document.LastPattern secondBadFields key p → p.Compiles := by
    intro hall
    obtain ⟨compiled, hcompiled⟩ := hall "b" _ ⟨_, rfl, rfl⟩
    cases hcompiled
  refine ⟨hstem, hread, hobject, hpatterns, hbad, ?_⟩
  obtain ⟨key, p, fault, span, ⟨value, hvalue, hp⟩, hfault, -, hload, hspan, -, hcases, hcovers⟩ :=
    label_of_bad_pattern hstem hread hobject hpatterns hbad
  have hmem := Dict.mem_of_last? hvalue
  simp only [secondBadFields, List.mem_cons, List.not_mem_nil, or_false] at hmem
  rcases hmem with ⟨⟨⟩⟩ | ⟨⟨⟩⟩
  · cases hp
    cases hfault
  · have hten : keySpan secondBad.toList "b" = ⟨10, 3⟩ := by decide +kernel
    obtain rfl : ⟨10, 3⟩ = span := hten.symm.trans (Option.some.inj hspan)
    refine ⟨p, fault, hfault, hload, hspan, hcovers.2 ?_⟩
    rcases hcases with ⟨before, hleft, hbytes⟩ | ⟨-, hzero⟩
    · obtain ⟨behind, htext⟩ := hleft.occurs
      have hsplit : "\x7b\"ü\":\"x\",".toList ++ "\"b\":[null]\x7d".toList = secondBad.toList := by
        decide +kernel
      rw [← hsplit, List.append_assoc] at htext
      obtain rfl := eq_of_byteCount_eq htext
        ((Span.mk.inj hbytes).1.symm.trans (by decide +kernel))
      exact ⟨_, _, _, nameAt_secondBad, hp, hleft⟩
    · cases hzero

/-- The pattern of the key `b` cannot be compiled. The label for it is on the text of the key `x`,
which is the same in quotes, and not on the name of a member. -/
theorem label_on_text :
    let text := "\x7b\"x\":\"b\",\"b\":[null]\x7d"
    let error : FileError := .pattern "de.json" text "b" (.unsupportedSegment 0 .null)
    Document.IsObject text [("x", .string "b"), ("b", .array [.null])] ∧
    (∀ c : Catalog, c.loadAt (Files.only "de.json" text) "de.json" = .error error) ∧
    error.span? = some ⟨5, 3⟩ ∧ error.label? = some "label at line 1, columns 6 to 8: here" ∧
    ¬∃ p, Span.CoversName ⟨5, 3⟩ text "b" p := by
  intro text error
  refine ⟨by unfold Document.IsObject; cbv, ?_, by decide +kernel, by decide +kernel, ?_⟩
  · have hparse : Document.parse text =
        .ok [("x", .text "b"), ("b", .segments [.unsupported .null])] := by cbv
    exact loadAt_of_compileMembers (by cbv) (Files.read_only _ _) hparse rfl
  · rintro ⟨p, before, name, behind, value, hname, -, hspan⟩
    obtain ⟨hbefore, hlength⟩ := Span.mk.inj hspan
    have hsplit : text.toList =
        "\x7b\"x\":".toList ++ ("\"b\"".toList ++ ",\"b\":[null]\x7d".toList) := by
      decide +kernel
    have hsame := hsplit.symm.trans hname.text_eq
    rw [List.append_assoc] at hsame
    obtain rfl := eq_of_byteCount_eq hsame ((by decide +kernel : _ = 5).trans hbefore)
    have hrest := List.append_cancel_left hsame
    obtain rfl := eq_of_byteCount_eq hrest ((by decide +kernel : _ = 3).trans hlength)
    obtain rfl := List.append_cancel_left hrest
    -- A comma follows the text, where a name has a colon behind it.
    obtain ⟨rest, after, hcolon, -⟩ := hname.valued
    have hcomma : (Json.skipSpace ",\"b\":[null]\x7d".toList).head? = some ',' := by decide +kernel
    rw [hcolon] at hcomma
    cases hcomma

end Parlance

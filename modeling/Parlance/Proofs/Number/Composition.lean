import Parlance.Number.Rendering
import Parlance.Proofs.Number.Grammar
import Parlance.Proofs.Number.Tag

/-!
# Formats one after the other

Every piece of a format stands for a text of its own, whatever the pieces around it are. A reader
that takes runs of characters as one piece may join the end of a format with the beginning of the
next one, but this changes no text. So the text of two formats is the one of the first followed by
the one of the second, and the first conversion that has no text is at the same place in its format.

Results:
1. `exists_written_piece`: what a piece stands for, and which pieces have no text for which numbers.
2. `written_append`, `written_shift`: what is written for two formats, and for a format further on,
   by induction on the pieces.
3. `written_of_wholeFree`, `written_of_firstWhole`: where writing a number stops.
4. `formats_compose`: the same for whole formats.
-/

namespace Parlance.NumberSpec

/-! ## Definitions -/

/-- What is written for a number in a text that stands at `offset` in a format. It is the place of
the error if the text cannot be read or the number has no text. -/
def written (v : Number) (offset : Nat) (cs : List Char) : Except Nat (List Char) :=
  match piecesFrom offset cs with
  | .ok pieces => applyPieces v pieces
  | .error (place, _) => .error place

/-- A conversion to a whole number, behind its percent sign. -/
def IsWhole (directive : List Char) : Prop :=
  IsDirective directive ∧ (directive.getLast? = some 'd' ∨ directive.getLast? = some 'i')

/-- A format without conversions to whole numbers. -/
inductive IsWholeFree : List Char → Prop
  | nil : IsWholeFree []
  | cons {piece rest : List Char} : IsPiece piece →
      (∀ directive, piece = '%' :: directive → ¬IsWhole directive) → IsWholeFree rest →
      IsWholeFree (piece ++ rest)

/-- A format whose first conversion to a whole number stands behind `before`. -/
def FirstWhole (before cs : List Char) : Prop :=
  ∃ directive rest, cs = before ++ ('%' :: directive ++ rest) ∧ IsWholeFree before ∧
    IsWhole directive ∧ IsFormat rest

/-- A text with two percent signs for each one. -/
def escaped (t : String) : String :=
  String.ofList (t.toList.flatMap fun c => if c = '%' then ['%', '%'] else [c])

/-! ## Reading and writing a piece -/

section

variable {v : Number} {offset : Nat} {front rest : List Char}

theorem piecesFrom_append {p : Piece} (hread : nextPiece offset (front ++ rest) = some (p, rest)) :
    piecesFrom offset (front ++ rest) =
      (piecesFrom (offset + byteCount front) rest).map (p :: ·) := by
  have hne : ¬(front ++ rest).isEmpty = true := by
    intro hempty
    rw [List.isEmpty_iff.1 hempty] at hread
    cases hread
  have hbytes : byteCount (front ++ rest) - byteCount rest = byteCount front := by
    rw [byteCount_append, Nat.add_sub_cancel]
  rw [piecesFrom, if_neg hne]
  split
  · next hnone => cases hnone.symm.trans hread
  · next q left hsome =>
    obtain ⟨rfl, rfl⟩ := Prod.mk.inj (Option.some.inj (hsome.symm.trans hread))
    dsimp only
    rw [hbytes]
    cases piecesFrom (offset + byteCount front) left <;> rfl

theorem written_nil (v : Number) (offset : Nat) : written v offset [] = .ok [] := by
  rw [written, piecesFrom]
  rfl

theorem written_of_literal {text : List Char}
    (hread : nextPiece offset (front ++ rest) = some (.literal text, rest)) :
    written v offset (front ++ rest) =
      (written v (offset + byteCount front) rest).map (text ++ ·) := by
  rw [written, written, piecesFrom_append hread]
  cases piecesFrom (offset + byteCount front) rest with
  | error place => rfl
  | ok pieces =>
    show applyPieces v (.literal text :: pieces) = (applyPieces v pieces).map (text ++ ·)
    rw [applyPieces]
    cases applyPieces v pieces <;> rfl

/-- A doubled percent sign is written as one. -/
theorem written_percent (v : Number) (offset : Nat) (rest : List Char) :
    written v offset (['%', '%'] ++ rest) =
      (written v (offset + byteCount ['%', '%']) rest).map (['%'] ++ ·) := by
  have hread : nextPiece offset (['%', '%'] ++ rest) = some (.literal ['%'], rest) := rfl
  exact written_of_literal hread

theorem written_of_conversion {c : Conversion}
    (hread : nextPiece offset (front ++ rest) = some (.conversion offset c, rest))
    (hrest : IsFormat rest) :
    written v offset (front ++ rest) =
      match c.apply v with
      | none => .error offset
      | some text => (written v (offset + byteCount front) rest).map (text ++ ·) := by
  obtain ⟨pieces, hpieces⟩ := piecesFrom_of_isFormat hrest (offset + byteCount front)
  rw [written, written, piecesFrom_append hread, hpieces]
  show applyPieces v (.conversion offset c :: pieces) =
    match c.apply v with
    | none => .error offset
    | some text => (applyPieces v pieces).map (text ++ ·)
  rw [applyPieces]
  cases c.apply v with
  | none => rfl
  | some text => cases applyPieces v pieces <;> rfl

/-- A run of characters is written as it is. -/
theorem written_run (v : Number) (offset : Nat) (cs : List Char) :
    written v offset cs =
      (written v (offset + byteCount (cs.takeWhile (· != '%'))) (cs.dropWhile (· != '%'))).map
        (cs.takeWhile (· != '%') ++ ·) := by
  have hsame : ∀ x : Except Nat (List Char), x = x.map ([] ++ ·) := by
    rintro (_ | _) <;> rfl
  cases cs with
  | nil => exact hsame _
  | cons c rest =>
    by_cases hc : c = '%'
    · subst hc
      exact hsame _
    · have hpos : (c != '%') = true := by simpa using hc
      have hrun : (c :: rest).takeWhile (· != '%') = c :: rest.takeWhile (· != '%') :=
        List.takeWhile_cons_of_pos hpos
      have hleft : (c :: rest).dropWhile (· != '%') = rest.dropWhile (· != '%') :=
        List.dropWhile_cons_of_pos hpos
      rw [hrun, hleft, ← written_of_literal]
      · rw [List.cons_append, List.takeWhile_append_dropWhile]
      · rw [List.cons_append, List.takeWhile_append_dropWhile]
        exact nextPiece_of_ne hc

/-- So is its first character, whatever follows. -/
theorem written_text {c : Char} (h : c ≠ '%') :
    written v offset (c :: rest) = (written v (offset + c.utf8Size) rest).map ([c] ++ ·) := by
  have hpos : (c != '%') = true := by simpa using h
  have hrun : (c :: rest).takeWhile (· != '%') = c :: rest.takeWhile (· != '%') :=
    List.takeWhile_cons_of_pos hpos
  have hleft : (c :: rest).dropWhile (· != '%') = rest.dropWhile (· != '%') :=
    List.dropWhile_cons_of_pos hpos
  rw [written_run, written_run v _ rest, hrun, hleft, byteCount, ← Nat.add_assoc]
  cases written v (offset + c.utf8Size + byteCount (rest.takeWhile (· != '%')))
    (rest.dropWhile (· != '%')) <;> rfl

end

/-! ## What a piece stands for -/

theorem kindOf_eq_integer_iff {letter : Char} :
    kindOf letter = some .integer ↔ letter = 'd' ∨ letter = 'i' := by
  fun_cases kindOf letter with
  | case6 => simp_all
  | _ => simp

/-- A number has no text under a conversion exactly if it has no value and the conversion is one to
a whole number. -/
theorem apply_eq_none_iff {c : Conversion} {v : Number} :
    c.apply v = none ↔ v.value? = none ∧ c.kind = .integer := by
  rw [Conversion.apply, Option.map_eq_none_iff]
  match hkind : c.kind, v with
  | .integer, .integer n => simp [Conversion.body, hkind, Number.value?]
  | .integer, .float (.finite x) =>
    simp [Conversion.body, hkind, Number.value?, Conversion.truncated]
  | .integer, .float (.infinite _) =>
    simp [Conversion.body, hkind, Number.value?, Conversion.truncated]
  | .integer, .float .nan => simp [Conversion.body, hkind, Number.value?, Conversion.truncated]
  | .fixed, .integer n => simp [Conversion.body, hkind]
  | .fixed, .float x => simp [Conversion.body, hkind]
  | .plain, .integer n => simp [Conversion.body, hkind]
  | .plain, .float x => simp [Conversion.body, hkind]

/-- A piece stands for the same text wherever it is, if it has one for the number. -/
theorem exists_written_piece {piece : List Char} (h : IsPiece piece) :
    ∃ text? : Number → Option (List Char),
      (∀ v, text? v = none ↔
        v.value? = none ∧ ∃ directive, piece = '%' :: directive ∧ IsWhole directive) ∧
      ∀ v offset rest, IsFormat rest →
        written v offset (piece ++ rest) =
          match text? v with
          | none => .error offset
          | some text => (written v (offset + byteCount piece) rest).map (text ++ ·) := by
  cases h with
  | @text c hc =>
    refine ⟨fun _ => some [c], fun v => ⟨nofun, ?_⟩, fun v offset rest _ => written_text hc⟩
    rintro ⟨-, directive, heq, -⟩
    exact absurd (List.cons.inj heq).1 hc
  | percent =>
    refine ⟨fun _ => some ['%'], fun v => ⟨nofun, ?_⟩, fun v offset rest _ => ?_⟩
    · rintro ⟨-, directive, heq, hdirective, -⟩
      obtain rfl := (List.cons.inj heq).2
      exact absurd List.mem_cons_self hdirective.percent_not_mem
    · exact written_percent v offset rest
  | @conversion directive hdirective =>
    obtain ⟨c, hkind, hread⟩ := exists_readConversion_append hdirective
    refine ⟨c.apply, fun v => ?_, fun v offset rest hrest => ?_⟩
    · have hwhole : c.kind = .integer ↔ IsWhole directive := by
        obtain ⟨letter, hlast, hletter⟩ := Option.bind_eq_some_iff.1 hkind
        rw [IsWhole, hlast, Option.some_inj, Option.some_inj, ← kindOf_eq_integer_iff, hletter,
          Option.some_inj]
        exact ⟨fun h => ⟨hdirective, h⟩, And.right⟩
      rw [apply_eq_none_iff, hwhole]
      refine and_congr_right fun _ => ⟨fun h => ⟨_, rfl, h⟩, ?_⟩
      rintro ⟨_, heq, h⟩
      obtain rfl := (List.cons.inj heq).2
      exact h
    · refine written_of_conversion ?_ hrest
      have hhead : '%' ∉ (directive ++ rest).head? := by
        obtain ⟨letter, more, rfl⟩ := List.exists_cons_of_ne_nil hdirective.ne_nil
        rintro ⟨⟩
        exact hdirective.percent_not_mem List.mem_cons_self
      rw [List.cons_append, nextPiece_of_percent hhead, hread rest]
      rfl

/-! ## Formats -/

section

variable {v : Number} {a b cs : List Char}

/-- The second of two formats is written behind the first. -/
theorem written_append (ha : IsFormat a) (hb : IsFormat b) (v : Number) (offset : Nat) :
    written v offset (a ++ b) = do
      let s ← written v offset a
      let t ← written v (offset + byteCount a) b
      return s ++ t := by
  induction ha generalizing offset with
  | nil =>
    rw [written_nil, List.nil_append, byteCount, Nat.add_zero]
    cases written v offset b <;> rfl
  | @cons piece rest hpiece hrest ih =>
    obtain ⟨text?, -, htext⟩ := exists_written_piece hpiece
    rw [List.append_assoc, htext _ _ _ (hrest.append hb), htext _ _ _ hrest, ih,
      byteCount_append, ← Nat.add_assoc]
    cases text? v with
    | none => rfl
    | some text =>
      cases written v (offset + byteCount piece) rest with
      | error place => rfl
      | ok s =>
        cases written v (offset + byteCount piece + byteCount rest) b with
        | error place => rfl
        | ok t => exact congrArg Except.ok (List.append_assoc ..).symm

/-- Further on in a format, the same is written, and an error is as much further on. -/
theorem written_shift (h : IsFormat cs) (v : Number) (start offset : Nat) :
    written v (start + offset) cs = (written v offset cs).mapError (start + ·) := by
  induction h generalizing offset with
  | nil =>
    rw [written_nil, written_nil]
    rfl
  | @cons piece rest hpiece hrest ih =>
    obtain ⟨text?, -, htext⟩ := exists_written_piece hpiece
    rw [htext _ _ _ hrest, htext _ _ _ hrest, Nat.add_assoc, ih]
    cases text? v with
    | none => rfl
    | some text => cases written v (offset + byteCount piece) rest <;> rfl

/-! ## Where writing stops -/

theorem IsWholeFree.isFormat (h : IsWholeFree cs) : IsFormat cs := by
  induction h with
  | nil => exact .nil
  | cons hpiece _ _ ih => exact .cons hpiece ih

theorem FirstWhole.isFormat {before : List Char} (h : FirstWhole before cs) : IsFormat cs := by
  obtain ⟨directive, rest, rfl, hbefore, hdirective, hrest⟩ := h
  exact hbefore.isFormat.append (.cons (.conversion hdirective.1) hrest)

/-- A format has a first conversion to a whole number, or it has none. -/
theorem wholeFree_or_firstWhole (h : IsFormat cs) :
    IsWholeFree cs ∨ ∃ before, FirstWhole before cs := by
  induction h with
  | nil => exact Or.inl .nil
  | @cons piece rest hpiece hrest ih =>
    by_cases hwhole : ∃ directive, piece = '%' :: directive ∧ IsWhole directive
    · obtain ⟨directive, rfl, hdirective⟩ := hwhole
      exact Or.inr ⟨[], directive, rest, rfl, .nil, hdirective, hrest⟩
    · have hfree : ∀ directive, piece = '%' :: directive → ¬IsWhole directive :=
        fun directive heq hdirective => hwhole ⟨directive, heq, hdirective⟩
      rcases ih with ih | ⟨before, directive, more, rfl, hbefore, hdirective, hmore⟩
      · exact Or.inl (.cons hpiece hfree ih)
      · exact Or.inr ⟨piece ++ before, directive, more, (List.append_assoc ..).symm,
          .cons hpiece hfree hbefore, hdirective, hmore⟩

/-- Numbers with a value have a text in every format. -/
theorem written_of_value (h : IsFormat cs) (hv : v.value? ≠ none) (offset : Nat) :
    ∃ text, written v offset cs = .ok text := by
  induction h generalizing offset with
  | nil => exact ⟨[], written_nil v offset⟩
  | @cons piece rest hpiece hrest ih =>
    obtain ⟨text?, hnone, htext⟩ := exists_written_piece hpiece
    obtain ⟨text, hpieceText⟩ := Option.ne_none_iff_exists'.1 fun h => hv ((hnone v).1 h).1
    obtain ⟨others, hothers⟩ := ih (offset + byteCount piece)
    rw [htext _ _ _ hrest, hpieceText, hothers]
    exact ⟨text ++ others, rfl⟩

/-- All numbers have a text in a format without conversions to whole numbers. -/
theorem written_of_wholeFree (h : IsWholeFree cs) (v : Number) (offset : Nat) :
    ∃ text, written v offset cs = .ok text := by
  induction h generalizing offset with
  | nil => exact ⟨[], written_nil v offset⟩
  | @cons piece rest hpiece hfree hrest ih =>
    obtain ⟨text?, hnone, htext⟩ := exists_written_piece hpiece
    obtain ⟨text, hpieceText⟩ := Option.ne_none_iff_exists'.1 fun h =>
      have ⟨_, directive, heq, hdirective⟩ := (hnone v).1 h
      hfree directive heq hdirective
    obtain ⟨others, hothers⟩ := ih (offset + byteCount piece)
    rw [htext _ _ _ hrest.isFormat, hpieceText, hothers]
    exact ⟨text ++ others, rfl⟩

/-- A number without a value is refused by the first conversion to a whole number. -/
theorem written_of_firstWhole {before : List Char} (h : FirstWhole before cs)
    (hv : v.value? = none) (offset : Nat) :
    written v offset cs = .error (offset + byteCount before) := by
  obtain ⟨directive, rest, rfl, hbefore, hdirective, hrest⟩ := h
  have hpiece : IsPiece ('%' :: directive) := .conversion hdirective.1
  obtain ⟨text, htext⟩ := written_of_wholeFree hbefore v offset
  obtain ⟨text?, hnone, hwritten⟩ := exists_written_piece hpiece
  rw [written_append hbefore.isFormat (.cons hpiece hrest), htext, hwritten _ _ _ hrest,
    (hnone v).2 ⟨hv, directive, rfl, hdirective⟩]
  rfl

end

/-! ## Whole formats -/

theorem apply_eq_written {s : String} {spec : NumberSpec} (h : parse s = .ok spec) (v : Number) :
    spec.apply v = ((written v 0 s.toList).map String.ofList).mapError
      fun offset => ⟨s, offset, .notAnInteger v⟩ := by
  rw [parse] at h
  split at h
  · next pieces hpieces =>
    obtain rfl := Except.ok.inj h
    have hwritten : written v 0 s.toList = applyPieces v pieces := by
      rw [written, hpieces]
    rw [apply, hwritten]
    dsimp only
    cases applyPieces v pieces <;> rfl
  · cases h

/-- The text of two formats is that of the first, followed by that of the second. -/
theorem apply_append {a b : String} {formatA formatB format : NumberSpec}
    (ha : parse a = .ok formatA) (hb : parse b = .ok formatB) (h : parse (a ++ b) = .ok format)
    (v : Number) :
    format.apply v = do
      let s ← (formatA.apply v).mapError fun e => ⟨a ++ b, e.offset, .notAnInteger v⟩
      let t ← (formatB.apply v).mapError fun e =>
        ⟨a ++ b, a.utf8ByteSize + e.offset, .notAnInteger v⟩
      return s ++ t := by
  have hformatA : IsFormat a.toList := parse_eq_ok_iff.1 ⟨_, ha⟩
  have hformatB : IsFormat b.toList := parse_eq_ok_iff.1 ⟨_, hb⟩
  have hbytes : 0 + byteCount a.toList = a.utf8ByteSize + 0 := by
    rw [byteCount_eq, String.ofList_toList, Nat.add_comm]
  rw [apply_eq_written h, apply_eq_written ha, apply_eq_written hb, String.toList_append,
    written_append hformatA hformatB, hbytes, written_shift hformatB]
  cases written v 0 a.toList with
  | error place => rfl
  | ok s =>
    cases written v 0 b.toList with
    | error place => rfl
    | ok t => exact congrArg Except.ok String.ofList_append

/-- A format fails for what has no value, at its first conversion to a whole number. -/
theorem exists_firstWhole_of_apply {s : String} {format : NumberSpec} {v : Number} {e : SpecError}
    (h : parse s = .ok format) (he : format.apply v = .error e) :
    v.value? = none ∧ ∃ before, FirstWhole before s.toList ∧
      e.offset = (String.ofList before).utf8ByteSize := by
  have hformat : IsFormat s.toList := parse_eq_ok_iff.1 ⟨_, h⟩
  rw [apply_eq_written h] at he
  have hv : v.value? = none := by
    by_contra hv
    obtain ⟨text, htext⟩ := written_of_value hformat hv 0
    rw [htext] at he
    cases he
  refine ⟨hv, ?_⟩
  rcases wholeFree_or_firstWhole hformat with hfree | ⟨before, hbefore⟩
  · obtain ⟨text, htext⟩ := written_of_wholeFree hfree v 0
    rw [htext] at he
    cases he
  · refine ⟨before, hbefore, ?_⟩
    rw [written_of_firstWhole hbefore hv, byteCount_eq, Nat.zero_add] at he
    obtain rfl := Except.error.inj he
    rfl

theorem apply_of_firstWhole {s : String} {format : NumberSpec} {v : Number} {before : List Char}
    (h : parse s = .ok format) (hv : v.value? = none) (hbefore : FirstWhole before s.toList) :
    ∃ e, format.apply v = .error e := by
  rw [apply_eq_written h, written_of_firstWhole hbefore hv]
  exact ⟨_, rfl⟩

theorem toList_escaped (t : String) :
    (escaped t).toList = t.toList.flatMap fun c => if c = '%' then ['%', '%'] else [c] :=
  String.toList_ofList

/-- Two percent signs for each one are a format for the text itself. -/
theorem written_escaped (cs : List Char) :
    let doubled := cs.flatMap fun c => if c = '%' then ['%', '%'] else [c]
    IsFormat doubled ∧ ∀ v offset, written v offset doubled = .ok cs := by
  induction cs with
  | nil => exact ⟨.nil, written_nil⟩
  | cons c rest ih =>
    obtain ⟨hformat, hwritten⟩ := ih
    dsimp only
    rw [List.flatMap_cons]
    split
    · next hc =>
      subst hc
      refine ⟨.cons .percent hformat, fun v offset => ?_⟩
      rw [written_percent, hwritten]
      rfl
    · next hc =>
      refine ⟨.cons (.text hc) hformat, fun v offset => ?_⟩
      rw [List.singleton_append, written_text hc, hwritten]
      rfl

/-- Two formats, one after the other, are a format. What it makes of a number is what the first
makes of it, followed by what the second makes of it.
* It fails with the first of them that fails, at the same place, which in the second is further on
  by the bytes of the first.
* That is, it fails for what has no value, if there is a conversion to a whole number, and then at
  the first of these, by the bytes before it.

A text with two percent signs for each one is a format that makes the text of every number. -/
theorem formats_compose :
    (∀ (a b : String) (formatA formatB : NumberSpec), parse a = .ok formatA →
      parse b = .ok formatB → ∃ format, parse (a ++ b) = .ok format ∧ ∀ v,
        (∀ s t, formatA.apply v = .ok s → formatB.apply v = .ok t →
          format.apply v = .ok (s ++ t)) ∧
        (∀ e, formatA.apply v = .error e →
          format.apply v = .error ⟨a ++ b, e.offset, .notAnInteger v⟩) ∧
        (∀ s e, formatA.apply v = .ok s → formatB.apply v = .error e →
          format.apply v = .error ⟨a ++ b, a.utf8ByteSize + e.offset, .notAnInteger v⟩) ∧
        ((∃ e, format.apply v = .error e) ↔
          v.value? = none ∧ ∃ before, FirstWhole before (a ++ b).toList) ∧
        ∀ e, format.apply v = .error e → ∃ before, FirstWhole before (a ++ b).toList ∧
          e.offset = (String.ofList before).utf8ByteSize) ∧
    ∀ t : String, ∃ format, parse (escaped t) = .ok format ∧ ∀ v, format.apply v = .ok t := by
  refine ⟨fun a b formatA formatB ha hb => ?_, fun t => ?_⟩
  · have hformatA : IsFormat a.toList := parse_eq_ok_iff.1 ⟨_, ha⟩
    have hformatB : IsFormat b.toList := parse_eq_ok_iff.1 ⟨_, hb⟩
    obtain ⟨format, hformat⟩ := parse_eq_ok_iff.2 (String.toList_append ▸ hformatA.append hformatB)
    refine ⟨format, hformat, fun v => ?_⟩
    have happly := apply_append ha hb hformat v
    refine ⟨fun s t hs ht => ?_, fun e he => ?_, fun s e hs he => ?_, ⟨?_, ?_⟩, fun e he => ?_⟩
    · rw [happly, hs, ht]
      rfl
    · rw [happly, he]
      rfl
    · rw [happly, hs, he]
      rfl
    · rintro ⟨e, he⟩
      obtain ⟨hv, before, hbefore, -⟩ := exists_firstWhole_of_apply hformat he
      exact ⟨hv, before, hbefore⟩
    · rintro ⟨hv, before, hbefore⟩
      exact apply_of_firstWhole hformat hv hbefore
    · exact (exists_firstWhole_of_apply hformat he).2
  · obtain ⟨hformat, hwritten⟩ := written_escaped t.toList
    rw [← toList_escaped] at hformat hwritten
    obtain ⟨format, hparse⟩ := parse_eq_ok_iff.2 hformat
    refine ⟨format, hparse, fun v => ?_⟩
    rw [apply_eq_written hparse, hwritten]
    exact congrArg Except.ok String.ofList_toList

/-- Seven is written by both formats. What is no number is written by the first, with eight bytes,
and refused by the second behind four more. -/
theorem compose_of_accented :
    ∃ format, parse ("é%.1f%%" ++ "é%%%+i") = .ok format ∧
      format.apply (.integer 7) = .ok "é7.0%é%+7" ∧
      format.apply (.float .nan) =
        .error ⟨"é%.1f%%" ++ "é%%%+i", 12, .notAnInteger (.float .nan)⟩ := by
  let first : NumberSpec := ⟨"é%.1f%%", [.literal ['é'],
    .conversion 2 ⟨false, false, false, none, some 1, .fixed⟩, .literal ['%']]⟩
  let second : NumberSpec := ⟨"é%%%+i", [.literal ['é'], .literal ['%'],
    .conversion 4 ⟨false, true, false, none, none, .integer⟩]⟩
  have hfirst : parse "é%.1f%%" = .ok first := by cbv
  have hsecond : parse "é%%%+i" = .ok second := by cbv
  obtain ⟨format, hformat, happly⟩ := formats_compose.1 _ _ _ _ hfirst hsecond
  refine ⟨format, hformat, ?_, ?_⟩
  · exact (happly (.integer 7)).1 "é7.0%" "é%+7" (by cbv) (by cbv)
  · exact (happly (.float .nan)).2.2.1 "éNaN%" ⟨"é%%%+i", 4, .notAnInteger (.float .nan)⟩ (by cbv)
      (by cbv)

end Parlance.NumberSpec

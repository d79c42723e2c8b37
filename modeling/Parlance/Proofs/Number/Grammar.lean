import Mathlib
import Parlance.Number.Spec
import Parlance.Proofs.Text.Bytes

/-!
# The grammar of number formats

A format is a sequence of pieces. A piece is a character that is no percent sign, two percent signs,
or a conversion. The reader takes as many flags as there are and then as many digits as there are,
so that it may take a zero for a flag where the grammar has it for the first digit of a width. It
accepts the same formats all the same.

Results:
1. `exists_readConversion_append`, `exists_directive_of_readConversion`: a conversion is read
   exactly if the text begins with one.
2. `not_isPiece_of_nextPiece`: where no piece is read, the text begins with none.
3. `isFormat_of_piecesFrom`, `piecesFrom_of_isFormat`, `piecesFrom_eq_error`: what is read of a
   text, by induction on its pieces.
4. `parse_exact`: the same for whole formats.
-/

namespace Parlance.NumberSpec

/-! ## Definitions -/

/-- A width or precision: at least one ASCII digit, with a value that fits in 64 bits. -/
structure IsSize (cs : List Char) : Prop where
  inhabited : cs ≠ []
  digits : ∀ c ∈ cs, c.isDigit = true
  fits : Nat.ofDigitChars 10 cs 0 < 2 ^ 64

/-- What stands behind the percent sign of a conversion: any flags, a width or none, a point and a
precision or neither, and the letter of a type. -/
inductive IsDirective : List Char → Prop
  | mk {flags width precision : List Char} {letter : Char} :
      (∀ c ∈ flags, c = '-' ∨ c = '+' ∨ c = '0') →
      (width = [] ∨ IsSize width) →
      (precision = [] ∨ ∃ size, precision = '.' :: size ∧ IsSize size) →
      letter ∈ ['d', 'i', 'f', 'F', 's'] →
      IsDirective (flags ++ (width ++ (precision ++ [letter])))

/-- A piece: a character of text, two percent signs, or a conversion. -/
inductive IsPiece : List Char → Prop
  | text {c : Char} : c ≠ '%' → IsPiece [c]
  | percent : IsPiece ['%', '%']
  | conversion {directive : List Char} : IsDirective directive → IsPiece ('%' :: directive)

/-- A format: any sequence of pieces. -/
inductive IsFormat : List Char → Prop
  | nil : IsFormat []
  | cons {piece rest : List Char} : IsPiece piece → IsFormat rest → IsFormat (piece ++ rest)

/-! ## Runs of characters -/

section

variable {p : Char → Bool} {rest : List Char}

theorem takeWhile_of_head (h : ∀ c ∈ rest.head?, p c = false) : rest.takeWhile p = [] := by
  cases rest with
  | nil => rfl
  | cons c rest => exact List.takeWhile_cons_of_neg (by simp [h c rfl])

theorem dropWhile_of_head (h : ∀ c ∈ rest.head?, p c = false) : rest.dropWhile p = rest := by
  cases rest with
  | nil => rfl
  | cons c rest => exact List.dropWhile_cons_of_neg (by simp [h c rfl])

theorem takeWhile_append_of_head (front : List Char) (h : ∀ c ∈ rest.head?, p c = false) :
    (front ++ rest).takeWhile p = front.takeWhile p := by
  rw [List.takeWhile_append, takeWhile_of_head h, List.append_nil]
  split
  · next hall => exact ((List.takeWhile_prefix p).eq_of_length hall).symm
  · rfl

theorem dropWhile_append_of_head (front : List Char) (h : ∀ c ∈ rest.head?, p c = false) :
    (front ++ rest).dropWhile p = front.dropWhile p ++ rest := by
  rw [List.dropWhile_append, dropWhile_of_head h]
  split
  · next hempty => rw [List.isEmpty_iff.1 hempty, List.nil_append]
  · rfl

end

/-! ## Sizes -/

theorem ofDigitChars_mono (cs : List Char) {m n : Nat} (h : m ≤ n) :
    Nat.ofDigitChars 10 cs m ≤ Nat.ofDigitChars 10 cs n := by
  induction cs generalizing m n with
  | nil => exact h
  | cons c rest ih =>
    rw [Nat.ofDigitChars_cons, Nat.ofDigitChars_cons]
    exact ih (by omega)

/-- What is left of a size behind some of its digits is nothing or a size. -/
theorem IsSize.of_append {front back : List Char} (h : IsSize (front ++ back)) :
    back = [] ∨ IsSize back := by
  by_cases hback : back = []
  · exact Or.inl hback
  · refine Or.inr ⟨hback, fun c hc => h.digits c (List.mem_append_right _ hc), ?_⟩
    have hvalue := h.fits
    rw [Nat.ofDigitChars_append] at hvalue
    exact Nat.lt_of_le_of_lt (ofDigitChars_mono back (Nat.zero_le _)) hvalue

theorem isSize_takeWhile_iff {cs : List Char} :
    IsSize (cs.takeWhile Char.isDigit) ↔
      ¬((cs.takeWhile Char.isDigit).isEmpty ||
        decide (sizeLimit ≤ digitsValue (cs.takeWhile Char.isDigit))) = true := by
  have hlimit : sizeLimit = 2 ^ 64 := rfl
  rw [Bool.or_eq_true, List.isEmpty_iff, decide_eq_true_iff, hlimit, not_or, Nat.not_le]
  exact ⟨fun h => ⟨h.inhabited, h.fits⟩,
    fun h => ⟨h.1, fun c hc => List.mem_takeWhile_imp hc, h.2⟩⟩

/-- A size is read up to the first character that is no digit. -/
theorem readSize_append {cs rest : List Char} (h : IsSize cs)
    (hrest : ∀ c ∈ rest.head?, c.isDigit = false) :
    readSize (cs ++ rest) = (some (digitsValue cs), rest) := by
  have htake : (cs ++ rest).takeWhile Char.isDigit = cs := by
    rw [List.takeWhile_append_of_pos h.digits, takeWhile_of_head hrest, List.append_nil]
  have hdrop : (cs ++ rest).dropWhile Char.isDigit = rest := by
    rw [List.dropWhile_append_of_pos h.digits, dropWhile_of_head hrest]
  have hsize : IsSize ((cs ++ rest).takeWhile Char.isDigit) := htake.symm ▸ h
  rw [readSize, if_neg (isSize_takeWhile_iff.1 hsize), htake, hdrop]

/-- A size that may be missing is read the same whatever follows. -/
theorem exists_readSize_append {cs : List Char} (h : cs = [] ∨ IsSize cs) :
    ∃ size, ∀ rest, (∀ c ∈ rest.head?, c.isDigit = false) →
      readSize (cs ++ rest) = (size, rest) := by
  rcases h with rfl | h
  · refine ⟨none, fun rest hrest => ?_⟩
    rw [List.nil_append, readSize, takeWhile_of_head hrest]
    rfl
  · exact ⟨_, fun rest hrest => readSize_append h hrest⟩

theorem exists_size_of_readSize {cs rest : List Char} {n : Nat}
    (h : readSize cs = (some n, rest)) : ∃ size, IsSize size ∧ cs = size ++ rest := by
  unfold readSize at h
  dsimp only at h
  split at h
  · cases h
  · next hsize =>
    obtain ⟨_, rfl⟩ := Prod.mk.inj h
    exact ⟨_, isSize_takeWhile_iff.2 hsize, List.takeWhile_append_dropWhile.symm⟩

theorem exists_append_readSize (cs : List Char) :
    ∃ size, (size = [] ∨ IsSize size) ∧ cs = size ++ (readSize cs).2 := by
  unfold readSize
  dsimp only
  split
  · exact ⟨[], Or.inl rfl, rfl⟩
  · next hsize =>
    exact ⟨_, Or.inr (isSize_takeWhile_iff.2 hsize), List.takeWhile_append_dropWhile.symm⟩

/-! ## Conversions -/

theorem kindOf_isSome_iff {letter : Char} :
    (kindOf letter).isSome = true ↔ letter ∈ ['d', 'i', 'f', 'F', 's'] := by
  fun_cases kindOf letter with
  | case6 => simp_all
  | _ => simp

theorem isFlag_iff {c : Char} : isFlag c = true ↔ c = '-' ∨ c = '+' ∨ c = '0' := by
  simp [isFlag, or_assoc]

/-- The letter of a type can be taken for nothing that stands before it. -/
theorem ne_of_letter {letter : Char} (h : letter ∈ ['d', 'i', 'f', 'F', 's']) :
    letter.isDigit = false ∧ isFlag letter = false ∧ letter ≠ '.' ∧ letter ≠ '%' := by
  simp only [List.mem_cons, List.not_mem_nil, or_false] at h
  rcases h with rfl | rfl | rfl | rfl | rfl <;> decide

/-- A precision is read the same whatever follows its letter. -/
theorem exists_readPrecision_append {precision : List Char} {letter : Char}
    (h : precision = [] ∨ ∃ size, precision = '.' :: size ∧ IsSize size)
    (hletter : letter ∈ ['d', 'i', 'f', 'F', 's']) :
    ∃ size, ∀ rest, readPrecision (precision ++ letter :: rest) = (size, letter :: rest) := by
  obtain ⟨hdigit, _, hpoint, _⟩ := ne_of_letter hletter
  rcases h with rfl | ⟨size, rfl, hsize⟩
  · refine ⟨none, fun rest => ?_⟩
    rw [List.nil_append, readPrecision]
    rintro _ ⟨⟩
    exact hpoint rfl
  · refine ⟨some (digitsValue size), fun rest => ?_⟩
    have hhead : ∀ c ∈ (letter :: rest).head?, c.isDigit = false := by
      rintro _ ⟨⟩
      exact hdigit
    rw [List.cons_append, readPrecision, readSize_append hsize hhead]

theorem exists_append_readPrecision (cs : List Char) :
    ∃ precision, (precision = [] ∨ ∃ size, precision = '.' :: size ∧ IsSize size) ∧
      cs = precision ++ (readPrecision cs).2 := by
  unfold readPrecision
  split
  · next rest =>
    split
    · next n left hread =>
      obtain ⟨size, hsize, rfl⟩ := exists_size_of_readSize hread
      exact ⟨'.' :: size, Or.inr ⟨size, rfl, hsize⟩, rfl⟩
    · exact ⟨[], Or.inl rfl, rfl⟩
  · exact ⟨[], Or.inl rfl, rfl⟩

/-- A conversion is read the same whatever follows, and nothing behind it. Its last letter names its
kind. -/
theorem exists_readConversion_append {directive : List Char} (h : IsDirective directive) :
    ∃ c : Conversion, directive.getLast?.bind kindOf = some c.kind ∧
      ∀ rest, readConversion (directive ++ rest) = some (c, rest) := by
  obtain ⟨hflags, hwidth, hprecision, hletter⟩ := h
  next flags width precision letter =>
  have hstart : ∀ rest, ∀ c ∈ (precision ++ letter :: rest).head?,
      c.isDigit = false ∧ isFlag c = false := by
    intro rest
    rcases hprecision with rfl | ⟨size, rfl, _⟩
    · rintro _ ⟨⟩
      obtain ⟨hdigit, hflag, _⟩ := ne_of_letter hletter
      exact ⟨hdigit, hflag⟩
    · rintro _ ⟨⟩
      decide
  -- The zeros at the front of the width are taken for flags.
  have hleft : (flags ++ width).dropWhile isFlag = [] ∨
      IsSize ((flags ++ width).dropWhile isFlag) := by
    rw [List.dropWhile_append_of_pos fun c hc => isFlag_iff.2 (hflags c hc)]
    rcases hwidth with rfl | hwidth
    · exact Or.inl rfl
    · rw [← List.takeWhile_append_dropWhile (p := isFlag) (l := width)] at hwidth
      exact hwidth.of_append
  obtain ⟨size, hsize⟩ := exists_readSize_append hleft
  obtain ⟨places, hplaces⟩ := exists_readPrecision_append hprecision hletter
  obtain ⟨kind, hkind⟩ := Option.isSome_iff_exists.1 (kindOf_isSome_iff.2 hletter)
  let taken := (flags ++ width).takeWhile isFlag
  refine ⟨⟨taken.contains '-', taken.contains '+', taken.contains '0', size, places, kind⟩, ?_,
    fun rest => ?_⟩
  · simpa using hkind
  · have htext : flags ++ (width ++ (precision ++ [letter])) ++ rest =
        (flags ++ width) ++ (precision ++ letter :: rest) := by simp
    have hflag := fun c hc => (hstart rest c hc).2
    have hdigit := fun c hc => (hstart rest c hc).1
    simp only [readConversion, htext, takeWhile_append_of_head (flags ++ width) hflag,
      dropWhile_append_of_head (flags ++ width) hflag, hsize _ hdigit, hplaces, hkind]
    rfl

theorem exists_directive_of_readConversion {cs rest : List Char} {c : Conversion}
    (h : readConversion cs = some (c, rest)) :
    ∃ directive, IsDirective directive ∧ cs = directive ++ rest := by
  obtain ⟨width, hwidth, hsize⟩ := exists_append_readSize (cs.dropWhile isFlag)
  obtain ⟨precision, hprecision, hpoint⟩ :=
    exists_append_readPrecision (readSize (cs.dropWhile isFlag)).2
  simp only [readConversion] at h
  split at h
  · cases h
  · next letter left hleft =>
    obtain ⟨kind, hkind, heq⟩ := Option.map_eq_some_iff.1 h
    obtain ⟨_, rfl⟩ := Prod.mk.inj heq
    have hletter := kindOf_isSome_iff.1 (Option.isSome_iff_exists.2 ⟨kind, hkind⟩)
    have hflags : ∀ c ∈ cs.takeWhile isFlag, c = '-' ∨ c = '+' ∨ c = '0' :=
      fun c hc => isFlag_iff.1 (List.mem_takeWhile_imp hc)
    refine ⟨_, .mk hflags hwidth hprecision hletter, ?_⟩
    calc cs = cs.takeWhile isFlag ++ cs.dropWhile isFlag := List.takeWhile_append_dropWhile.symm
      _ = cs.takeWhile isFlag ++ (width ++ (precision ++ letter :: left)) := by
        rw [hsize, hpoint, hleft]
      _ = cs.takeWhile isFlag ++ (width ++ (precision ++ [letter])) ++ left := by simp

theorem IsDirective.percent_not_mem {directive : List Char} (h : IsDirective directive) :
    '%' ∉ directive := by
  obtain ⟨hflags, hwidth, hprecision, hletter⟩ := h
  have hsize : ∀ {size}, IsSize size → '%' ∉ size := by
    intro size hsize hmem
    cases hsize.digits '%' hmem
  simp only [List.mem_append, List.mem_singleton, not_or]
  refine ⟨fun hmem => ?_, ?_, ?_, ?_⟩
  · have := hflags '%' hmem
    revert this
    decide
  · rcases hwidth with rfl | hwidth
    · exact List.not_mem_nil
    · exact hsize hwidth
  · rcases hprecision with rfl | ⟨size, rfl, hprecision⟩
    · exact List.not_mem_nil
    · exact List.not_mem_cons_of_ne_of_not_mem (by decide) (hsize hprecision)
  · exact (ne_of_letter hletter).2.2.2.symm

theorem IsDirective.ne_nil {directive : List Char} (h : IsDirective directive) :
    directive ≠ [] := by
  obtain ⟨_, _, _, _⟩ := h
  simp

/-! ## Pieces -/

section

variable {offset : Nat} {cs rest : List Char}

theorem nextPiece_of_ne {c : Char} (h : c ≠ '%') :
    nextPiece offset (c :: rest) =
      some (.literal (c :: rest.takeWhile (· != '%')), rest.dropWhile (· != '%')) := by
  rw [nextPiece]
  · exact fun _ heq _ => h heq
  · exact h

theorem nextPiece_of_percent (h : '%' ∉ cs.head?) :
    nextPiece offset ('%' :: cs) =
      (readConversion cs).map fun (c, rest) => (.conversion offset c, rest) := by
  rw [nextPiece]
  rintro rest rfl
  exact h rfl

theorem isFormat_of_text (h : ∀ c ∈ cs, c ≠ '%') : IsFormat cs := by
  induction cs with
  | nil => exact .nil
  | cons c rest ih =>
    exact .cons (.text (h c List.mem_cons_self)) (ih fun d hd => h d (List.mem_cons_of_mem c hd))

theorem IsFormat.append (h : IsFormat cs) (hrest : IsFormat rest) : IsFormat (cs ++ rest) := by
  induction h with
  | nil => exact hrest
  | cons hpiece _ ih =>
    rw [List.append_assoc]
    exact .cons hpiece ih

theorem IsFormat.single (h : IsPiece cs) : IsFormat cs :=
  List.append_nil cs ▸ .cons h .nil

/-- A format without the text at its front is a format. -/
theorem IsFormat.dropWhile (h : IsFormat cs) : IsFormat (cs.dropWhile (· != '%')) := by
  induction h with
  | nil => exact .nil
  | cons hpiece hrest ih =>
    cases hpiece with
    | text hc => rwa [List.singleton_append, List.dropWhile_cons_of_pos (by simpa using hc)]
    | percent => exact .cons .percent hrest
    | conversion hdirective => exact .cons (.conversion hdirective) hrest

/-- Where a text begins with a piece, one is read, and a format is left of a format. A run of
characters is read as a whole. -/
theorem nextPiece_append {piece : List Char} (h : IsPiece piece) (offset : Nat)
    (rest : List Char) :
    ∃ p left, nextPiece offset (piece ++ rest) = some (p, left) ∧
      (IsFormat rest → IsFormat left) := by
  cases h with
  | text hc => exact ⟨_, _, nextPiece_of_ne hc, IsFormat.dropWhile⟩
  | percent => exact ⟨_, _, rfl, id⟩
  | @conversion directive hdirective =>
    obtain ⟨c, -, hread⟩ := exists_readConversion_append hdirective
    have hhead : '%' ∉ (directive ++ rest).head? := by
      obtain ⟨c, more, rfl⟩ := List.exists_cons_of_ne_nil hdirective.ne_nil
      rintro ⟨⟩
      exact hdirective.percent_not_mem List.mem_cons_self
    refine ⟨.conversion offset c, rest, ?_, id⟩
    rw [List.cons_append, nextPiece_of_percent hhead, hread rest]
    rfl

/-- What is read as a piece is a format that is not empty. -/
theorem exists_format_of_nextPiece {p : Piece} (h : nextPiece offset cs = some (p, rest)) :
    ∃ front, IsFormat front ∧ cs = front ++ rest := by
  unfold nextPiece at h
  split at h
  · cases h
  · obtain ⟨_, rfl⟩ := Prod.mk.inj (Option.some.inj h)
    exact ⟨_, .single .percent, rfl⟩
  · obtain ⟨⟨c, left⟩, hread, heq⟩ := Option.map_eq_some_iff.1 h
    obtain ⟨_, rfl⟩ := Prod.mk.inj heq
    obtain ⟨directive, hdirective, rfl⟩ := exists_directive_of_readConversion hread
    exact ⟨_, .single (.conversion hdirective), rfl⟩
  · next c left hpercent hne =>
    obtain ⟨_, rfl⟩ := Prod.mk.inj (Option.some.inj h)
    refine ⟨c :: left.takeWhile (· != '%'), .cons (.text ?_) (isFormat_of_text fun d hd => ?_), ?_⟩
    · exact hne
    · simpa using List.mem_takeWhile_imp hd
    · rw [List.cons_append, List.takeWhile_append_dropWhile]

theorem not_isPiece_of_nextPiece (h : nextPiece offset cs = none) {piece : List Char}
    (hlead : piece <+: cs) : ¬IsPiece piece := by
  intro hpiece
  obtain ⟨rest, rfl⟩ := hlead
  obtain ⟨p, left, hread, _⟩ := nextPiece_append hpiece offset rest
  cases h.symm.trans hread

theorem isFormat_of_nextPiece (hcs : IsFormat cs) (hne : cs ≠ []) (offset : Nat) :
    ∃ p left, nextPiece offset cs = some (p, left) ∧ IsFormat left := by
  cases hcs with
  | nil => exact absurd rfl hne
  | cons hpiece hrest =>
    obtain ⟨p, left, hread, hleft⟩ := nextPiece_append hpiece offset _
    exact ⟨p, left, hread, hleft hrest⟩

end

/-! ## Whole formats -/

section

variable {offset : Nat} {cs : List Char}

theorem isFormat_of_piecesFrom {pieces : List Piece} (h : piecesFrom offset cs = .ok pieces) :
    IsFormat cs := by
  fun_induction piecesFrom offset cs generalizing pieces with
  | case1 offset cs hempty => exact List.isEmpty_iff.1 hempty ▸ .nil
  | case2 => cases h
  | case3 offset cs _ p rest hread _ pieces hrest ih =>
    obtain ⟨front, hfront, rfl⟩ := exists_format_of_nextPiece hread
    exact hfront.append (ih hrest)
  | case4 => cases h

theorem piecesFrom_of_isFormat (h : IsFormat cs) (offset : Nat) :
    ∃ pieces, piecesFrom offset cs = .ok pieces := by
  fun_induction piecesFrom offset cs with
  | case1 => exact ⟨[], rfl⟩
  | case2 offset cs hne hnone =>
    obtain ⟨p, left, hread, _⟩ := isFormat_of_nextPiece h (by simpa using hne) offset
    cases hnone.symm.trans hread
  | case3 offset cs _ p rest _ _ pieces => exact ⟨p :: pieces, rfl⟩
  | case4 offset cs hne p rest hread _ place herror ih =>
    obtain ⟨p', left, hread', hleft⟩ :=
      isFormat_of_nextPiece h (by simpa using hne) offset
    obtain ⟨rfl, rfl⟩ := Prod.mk.inj (Option.some.inj (hread.symm.trans hread'))
    obtain ⟨pieces, hpieces⟩ := ih hleft
    cases herror.symm.trans hpieces

/-- A text that cannot be read is a format up to a place where no piece is read. -/
theorem piecesFrom_eq_error {place : Nat} {left : List Char}
    (h : piecesFrom offset cs = .error (place, left)) :
    ∃ before, IsFormat before ∧ cs = before ++ left ∧ place = offset + byteCount before ∧
      left ≠ [] ∧ nextPiece place left = none := by
  fun_induction piecesFrom offset cs with
  | case1 => cases h
  | case2 offset cs hne hnone =>
    obtain ⟨rfl, rfl⟩ := Prod.mk.inj (Except.error.inj h)
    exact ⟨[], .nil, rfl, rfl, by simpa using hne, hnone⟩
  | case3 => cases h
  | case4 offset cs _ p rest hread _ _ herror ih =>
    obtain rfl := Except.error.inj h
    obtain ⟨front, hfront, rfl⟩ := exists_format_of_nextPiece hread
    obtain ⟨before, hbefore, rfl, rfl, hrest⟩ := ih herror
    refine ⟨front ++ before, hfront.append hbefore, (List.append_assoc ..).symm, ?_, hrest⟩
    rw [byteCount_append front, byteCount_append front]
    omega

end

theorem parse_eq_ok_iff {s : String} :
    (∃ spec, parse s = .ok spec) ↔ IsFormat s.toList := by
  unfold parse
  constructor
  · rintro ⟨spec, h⟩
    split at h
    · next pieces hpieces => exact isFormat_of_piecesFrom hpieces
    · cases h
  · intro h
    obtain ⟨pieces, hpieces⟩ := piecesFrom_of_isFormat h 0
    rw [hpieces]
    exact ⟨_, rfl⟩

/-- A format is read exactly if it is a sequence of characters other than percent signs, of double
percent signs and of conversions. Where it is not, the error points at a percent sign, by the bytes
before it: what stands before is a format, and what begins with this percent sign begins neither
with two of them nor with a conversion. Every piece that is read leaves less to be read, so that
reading ends on every text. -/
theorem parse_exact (s : String) :
    ((∃ spec, parse s = .ok spec) ↔ IsFormat s.toList) ∧
      (∀ e, parse s = .error e → ∃ before rest, s.toList = before ++ '%' :: rest ∧
        e.offset = (String.ofList before).utf8ByteSize ∧ IsFormat before ∧
        ∀ piece, piece <+: '%' :: rest → piece ≠ ['%', '%'] ∧
          ∀ directive, IsDirective directive → piece ≠ '%' :: directive) ∧
      WellFounded fun rest cs => ∃ offset p, nextPiece offset cs = some (p, rest) := by
  refine ⟨parse_eq_ok_iff, fun e he => ?_, ?_⟩
  · unfold parse at he
    split at he
    · cases he
    · next place left hplace =>
      obtain rfl := Except.error.inj he
      obtain ⟨before, hbefore, hs, hoffset, hne, hnone⟩ := piecesFrom_eq_error hplace
      obtain ⟨c, rest, rfl⟩ := List.exists_cons_of_ne_nil hne
      have hpiece := fun piece (hlead : piece <+: c :: rest) =>
        not_isPiece_of_nextPiece hnone hlead
      obtain rfl : c = '%' := by
        by_contra hc
        exact hpiece [c] (List.prefix_append [c] rest) (.text hc)
      refine ⟨before, rest, hs, ?_, hbefore, fun piece hlead => ⟨?_, ?_⟩⟩
      · rw [← byteCount_eq, hoffset, Nat.zero_add]
      · rintro rfl
        exact hpiece _ hlead .percent
      · rintro directive hdirective rfl
        exact hpiece _ hlead (.conversion hdirective)
  · refine Subrelation.wf ?_ (measure List.length).wf
    rintro rest cs ⟨offset, p, hread⟩
    exact nextPiece_length_lt hread

/-- A point without a precision is in no conversion. Eleven bytes stand before this one: a character
of two bytes, a conversion of seven and two percent signs. -/
theorem parse_of_pointed :
    ¬IsFormat "é%-05.2f%%%.d".toList ∧
      ∃ e, parse "é%-05.2f%%%.d" = .error e ∧
        ∃ before rest, "é%-05.2f%%%.d".toList = before ++ '%' :: rest ∧
          (String.ofList before).utf8ByteSize = 11 ∧ IsFormat before ∧
          ∀ directive, IsDirective directive → ¬('%' :: directive) <+: '%' :: rest := by
  have herror : parse "é%-05.2f%%%.d" =
      .error ⟨"é%-05.2f%%%.d", 11, .unsupportedConversion "%."⟩ := by cbv
  obtain ⟨hformat, hplace, -⟩ := parse_exact "é%-05.2f%%%.d"
  obtain ⟨before, rest, hs, hoffset, hbefore, hpiece⟩ := hplace _ herror
  refine ⟨fun h => ?_, _, herror, before, rest, hs, hoffset.symm, hbefore,
    fun directive hdirective hlead => (hpiece _ hlead).2 directive hdirective rfl⟩
  obtain ⟨spec, hspec⟩ := hformat.2 h
  cases hspec.symm.trans herror

end Parlance.NumberSpec

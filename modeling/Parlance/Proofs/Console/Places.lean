import Parlance.Proofs.Console.Loading

/-!
# Labels at places

The place of a fault is a line of the document and the bytes that were read of it. The label of the
fault should stand at the last of these bytes, or at the first byte of the line if none was read. It
is put there by adding up the lines before, each with one byte for its end. A line that ends with a
carriage return and a line feed has two, so that each of them before the fault moves the label one
byte to the left.

Results:
1. `lineStart_after`: what the place of a number of bytes is.
2. `bytesOfLines_add_returns`: by how much the lines before are too short.
3. `offsetOf_add_returns`: where the label stands.
4. `label_of_fault`: the same for every fault of a document.
-/

namespace Parlance

/-! ## Definitions -/

/-- The byte that a line of a text begins with, when `lines` others come before it. Line feeds end
lines. -/
def lineStart : List Char → (lines : Nat) → Nat
  | _, 0 => 0
  | [], _ + 1 => 0
  | c :: rest, n + 1 => c.utf8Size + lineStart rest (if c = '\n' then n else n + 1)

/-- How many of the first lines of a text have a carriage return before the line feed. -/
def returnsBefore (text : List Char) (lines : Nat) : Nat :=
  ((text.splitOn '\n').take lines).countP fun line => line.getLast? = some '\r'

/-- The byte of a text that a place stands for: the last one read on its line, or the first one of
the line if none was read. -/
def Position.byteIn (text : List Char) (p : Position) : Nat :=
  min (lineStart text (p.line - 1) + (max p.column 1 - 1)) (byteCount text)

/-! ## Places -/

/-- A place that is reached from another is some lines further, or on the same line. -/
theorem lineStart_advance (p : Position) {text : List Char} {count : Nat}
    (h : count ≤ byteCount text) :
    ∃ n, (p.advance text count).line = p.line + n ∧ n ≤ text.count '\n' ∧
      lineStart text n + (p.advance text count).column = count + if n = 0 then p.column else 0 := by
  induction text generalizing p count with
  | nil =>
    obtain rfl : count = 0 := Nat.le_zero.1 h
    exact ⟨0, rfl, Nat.le_refl 0, by rw [lineStart, if_pos rfl, Position.advance]⟩
  | cons c rest ih =>
    rw [byteCount] at h
    rw [Position.advance]
    split
    · exact ⟨0, rfl, Nat.zero_le _, by rw [lineStart, if_pos rfl, Nat.zero_add, Nat.add_comm]⟩
    · next hread =>
      have hrest : count - c.utf8Size ≤ byteCount rest := by omega
      split
      · next hfeed =>
        subst hfeed
        obtain ⟨n, hline, hn, hcolumn⟩ := ih ⟨p.line + 1, 0⟩ hrest
        dsimp only at hline hcolumn
        refine ⟨n + 1, by rw [hline, Nat.add_assoc, Nat.add_comm 1], by simpa using hn, ?_⟩
        rw [ite_self] at hcolumn
        rw [lineStart, if_pos rfl, Nat.add_assoc, hcolumn, if_neg (Nat.succ_ne_zero n)]
        omega
      · next hfeed =>
        obtain ⟨n, hline, hn, hcolumn⟩ := ih ⟨p.line, p.column + c.utf8Size⟩ hrest
        dsimp only at hline hcolumn
        refine ⟨n, hline, by rwa [List.count_cons_of_ne hfeed], ?_⟩
        cases n with
        | zero =>
          rw [lineStart, if_pos rfl] at hcolumn ⊢
          omega
        | succ n =>
          rw [if_neg (Nat.succ_ne_zero n)] at hcolumn ⊢
          rw [lineStart, if_neg hfeed, Nat.add_assoc, hcolumn]
          omega

/-- The place after some bytes of a text: its line begins as many bytes before as its column
tells. -/
theorem lineStart_after {text : List Char} {count : Nat} (h : count ≤ byteCount text) :
    (Position.after text count).line - 1 ≤ text.count '\n' ∧
      lineStart text ((Position.after text count).line - 1) + (Position.after text count).column =
        count := by
  obtain ⟨n, hline, hn, hcolumn⟩ := lineStart_advance ⟨1, 0⟩ h
  rw [Position.after, hline, Nat.add_sub_cancel_left]
  exact ⟨hn, by rwa [ite_self] at hcolumn⟩

/-! ## Lines -/

theorem lineStart_append {line : List Char} (hline : '\n' ∉ line) (rest : List Char) (n : Nat) :
    lineStart (line ++ '\n' :: rest) (n + 1) = byteCount line + 1 + lineStart rest n := by
  induction line with
  | nil => rw [List.nil_append, lineStart, if_pos rfl, byteCount, Nat.zero_add]; rfl
  | cons c line ih =>
    have hc : c ≠ '\n' := (List.ne_of_not_mem_cons hline).symm
    rw [List.cons_append, lineStart, if_neg hc, ih (List.not_mem_of_not_mem_cons hline), byteCount]
    omega

/-- A carriage return at the end of a line is the one byte that is not counted. -/
theorem lineBytes_add_returns (line : List Char) :
    lineBytes line + (if line.getLast? = some '\r' then 1 else 0) = byteCount line + 1 := by
  rw [lineBytes, withoutReturn]
  split
  · next hreturn =>
    obtain ⟨front, rfl⟩ := List.getLast?_eq_some_iff.1 hreturn
    rw [List.dropLast_concat, byteCount_append]
    rfl
  · rfl

/-- The bytes counted for the first lines, and those not counted, are what comes before the next
line. -/
theorem bytesOfLines_add_returns {text : List Char} {n : Nat} (h : n ≤ text.count '\n') :
    bytesOfLines text n + returnsBefore text n = lineStart text n := by
  induction n generalizing text with
  | zero => rw [bytesOfLines, returnsBefore, lineStart, List.take_zero]; rfl
  | succ n ih =>
    have hmem : '\n' ∈ text := List.count_pos_iff.1 (Nat.lt_of_lt_of_le n.succ_pos h)
    obtain ⟨line, rest, rfl, hline⟩ := List.eq_append_cons_of_mem hmem
    have hrest : n ≤ rest.count '\n' := by
      rw [List.count_append, List.count_eq_zero.2 hline, List.count_cons_self] at h
      omega
    have hsplit : (line ++ '\n' :: rest).splitOn '\n' = line :: rest.splitOn '\n' := by
      rw [List.splitOn_append_cons_self, List.splitOn_eq_singleton hline]
      rfl
    have hbytes := lineBytes_add_returns line
    have hbehind := ih hrest
    rw [bytesOfLines, returnsBefore] at hbehind ⊢
    rw [hsplit, List.take_succ_cons, List.foldr_cons, List.countP_cons, lineStart_append hline,
      ← hbehind]
    simp only [decide_eq_true_eq]
    omega

theorem returnsBefore_eq_zero_iff {text : List Char} {n : Nat} :
    returnsBefore text n = 0 ↔
      ∀ line ∈ (text.splitOn '\n').take n, line.getLast? ≠ some '\r' := by
  simp [returnsBefore, List.countP_eq_zero]

/-! ## Labels -/

/-- The label for a place in a text is off by the carriage returns before it. -/
theorem offsetOf_add_returns {text : List Char} {p : Position}
    (hlines : p.line - 1 ≤ text.count '\n')
    (hcolumn : lineStart text (p.line - 1) + p.column ≤ byteCount text) :
    offsetOf text p + returnsBefore text (p.line - 1) = p.byteIn text := by
  have hbytes := bytesOfLines_add_returns hlines
  -- Neither the label nor the byte that it is meant for is behind the bytes that were read.
  rw [offsetOf, Position.byteIn, Nat.min_eq_left (by omega), Nat.min_eq_left (by omega)]
  omega

namespace Document

/-- Every error of a document has the place after some bytes of the document. -/
theorem exists_position_of_parse {text : String} {e : DocumentError} (h : parse text = .error e) :
    ∃ count ≤ byteCount text.toList, e.position = some (Position.after text.toList count) := by
  have hhalt (halt : Halt) : ∃ count ≤ byteCount text.toList,
      (halt.toError text.toList).position = some (Position.after text.toList count) :=
    ⟨byteCount text.toList - halt.left, Nat.sub_le _ _, rfl⟩
  unfold parse at h
  split at h
  · cases h
    exact hhalt _
  · split at h
    · cases h
      exact hhalt _
    · cases h

end Document

/-- Whatever is wrong with a document, its error has a place, reached after some bytes of it. The
label is before the byte that the place stands for, by one byte for each line before that ends with
a carriage return and a line feed. So it is right exactly if there is no such line. -/
theorem label_of_fault {text : String} {e : DocumentError} (h : Document.parse text = .error e)
    (path locale : String) :
    ∃ count p offset, count ≤ byteCount text.toList ∧
      e.position = some p ∧ p = Position.after text.toList count ∧
      lineStart text.toList (p.line - 1) + p.column = count ∧
      (FileError.ofLoad path text (.document locale e)).span? = some ⟨offset, 1⟩ ∧
      offset + returnsBefore text.toList (p.line - 1) = p.byteIn text.toList ∧
      (offset = p.byteIn text.toList ↔
        ∀ line ∈ (text.toList.splitOn '\n').take (p.line - 1), line.getLast? ≠ some '\r') := by
  obtain ⟨count, hcount, hposition⟩ := Document.exists_position_of_parse h
  obtain ⟨hlines, hcolumn⟩ := lineStart_after hcount
  have hoffset := offsetOf_add_returns hlines (Nat.le_trans (Nat.le_of_eq hcolumn) hcount)
  refine ⟨count, _, offsetOf text.toList _, hcount, hposition, rfl, hcolumn, ?_, hoffset, ?_⟩
  · rw [FileError.ofLoad, FileError.span?, hposition]
    rfl
  · rw [← returnsBefore_eq_zero_iff, ← hoffset]
    exact Nat.left_eq_add

/-- A document with a fault in its third line. The first line ends with a carriage return and a line
feed, the second one has umlauts. -/
def mixedEnds : String := "\x7b\r\n\"größe\":\"x\",\n\"a\" 1\x7d"

theorem label_of_mixedEnds :
    let e : DocumentError := ⟨.notJson .expectedColon, some ⟨3, 5⟩⟩
    Document.parse mixedEnds = .error e ∧
    lineStart mixedEnds.toList 2 = 18 ∧ Position.byteIn mixedEnds.toList ⟨3, 5⟩ = 22 ∧
    (FileError.ofLoad "de.json" mixedEnds (.document "de" e)).span? = some ⟨21, 1⟩ := by
  intro e
  have hparse : Document.parse mixedEnds = .error e := by cbv
  have hbyte : Position.byteIn mixedEnds.toList ⟨3, 5⟩ = 22 := by decide +kernel
  have hreturns : returnsBefore mixedEnds.toList 2 = 1 := by decide +kernel
  obtain ⟨count, p, offset, -, hposition, -, -, hspan, hoffset, -⟩ :=
    label_of_fault hparse "de.json" "de"
  obtain rfl : (⟨3, 5⟩ : Position) = p := Option.some.inj hposition
  have hsum : offset + 1 = 22 := by
    rw [← hreturns, ← hbyte]
    exact hoffset
  obtain rfl : offset = 21 := Nat.succ.inj hsum
  exact ⟨hparse, by decide +kernel, hbyte, hspan⟩

/-- The value behind the key `a` has no colon before it. The label for it is on the blank before the
value, since the first line ends with two bytes. -/
theorem label_before_fault :
    let text := "\x7b\r\n\"a\" 1\x7d"
    let e : DocumentError := ⟨.notJson .expectedColon, some ⟨2, 5⟩⟩
    Document.parse text = .error e ∧
    lineStart text.toList 1 + 5 = 8 ∧ Position.byteIn text.toList ⟨2, 5⟩ = 7 ∧
    (FileError.ofLoad "de.json" text (.document "de" e)).span? = some ⟨6, 1⟩ := by
  refine ⟨by cbv, ?_, ?_, ?_⟩ <;> decide +kernel

end Parlance

import Mathlib.Order.Bounds.Basic
import Mathlib.Order.MinMax
import Parlance.Text.EditDistance

/-!
# The edit distance is the least number of edits

The distance is computed by rows, one for each suffix of the source. Here it is compared with what
it stands for: the least number of single-character edits that lead from one text to the other.

Results:
1. `editDistance_cons_cons`: the entries of the rows satisfy the recursion on both texts.
2. `edits_editDistance`: as many edits as the distance says lead to the target.
3. `editDistance_le_of_edit`: one edit of the source changes the distance by one at most, so that no
   fewer edits lead to the target: `isLeast_editDistance`.
4. `editDistance_eq_zero_iff`: only equal texts are at distance zero.
5. `editDistance_append`: what is appended to a text takes as many edits as it is long.
-/

namespace Parlance.Text

/-! ## Definitions -/

/-- One edit: a character is inserted, deleted or replaced somewhere in a text. -/
inductive Edit : List Char → List Char → Prop
  | insert (before : List Char) (c : Char) (after : List Char) :
      Edit (before ++ after) (before ++ c :: after)
  | delete (before : List Char) (c : Char) (after : List Char) :
      Edit (before ++ c :: after) (before ++ after)
  | replace (before : List Char) (c d : Char) (after : List Char) :
      Edit (before ++ c :: after) (before ++ d :: after)

/-- So many edits lead from the first text to the second. -/
inductive Edits : Nat → List Char → List Char → Prop
  | none (text : List Char) : Edits 0 text text
  | more {n : Nat} {source between target : List Char} :
      Edit source between → Edits n between target → Edits (n + 1) source target

/-! ## Rows -/

theorem length_nextRow (c : Char) (target : List Char) {row : List Nat}
    (h : row.length = target.length + 1) : (nextRow c target row).length = target.length + 1 := by
  induction target generalizing row with
  | nil =>
    obtain ⟨below, rfl⟩ := List.length_eq_one_iff.1 h
    rfl
  | cons d target ih =>
    match row, h with
    | below :: diagonal :: rest, h =>
      have hrest := @ih (diagonal :: rest) (by simpa using h)
      rw [nextRow]
      cases hnext : nextRow c target (diagonal :: rest) with
      | nil =>
        rw [hnext] at hrest
        cases hrest
      | cons right row =>
        rw [hnext] at hrest
        simpa using hrest

theorem length_distanceRow (source target : List Char) :
    (distanceRow source target).length = target.length + 1 := by
  induction source with
  | nil =>
    change (emptyRow target).length = _
    induction target with
    | nil => rfl
    | cons d target ih => simp [emptyRow, ih]
  | cons c source ih => exact length_nextRow c target ih

/-- A row begins with the distance to the whole target. -/
theorem exists_distanceRow_eq (source target : List Char) :
    ∃ rest, distanceRow source target = editDistance source target :: rest := by
  unfold editDistance
  have hlength := length_distanceRow source target
  cases hrow : distanceRow source target with
  | nil =>
    rw [hrow] at hlength
    cases hlength
  | cons first rest => exact ⟨rest, rfl⟩

theorem distanceRow_cons_cons {source : List Char} {d : Char} {target : List Char}
    (h : distanceRow source (d :: target) =
      editDistance source (d :: target) :: distanceRow source target) (c : Char) :
    distanceRow (c :: source) (d :: target) =
      min (editDistance source (d :: target) + 1)
        (min (editDistance (c :: source) target + 1)
          (editDistance source target + if c = d then 0 else 1)) ::
        distanceRow (c :: source) target := by
  obtain ⟨rest, hrest⟩ := exists_distanceRow_eq source target
  obtain ⟨row, hrow⟩ := exists_distanceRow_eq (c :: source) target
  have hnext : nextRow c target (editDistance source target :: rest) =
      editDistance (c :: source) target :: row := hrest ▸ hrow
  change nextRow c (d :: target) (distanceRow source (d :: target)) = _
  rw [h, hrow, hrest, nextRow, hnext]

/-- Behind the first entry of a row stands the row of the shorter target. -/
theorem distanceRow_cons (source : List Char) (d : Char) (target : List Char) :
    distanceRow source (d :: target) =
      editDistance source (d :: target) :: distanceRow source target := by
  induction source with
  | nil => rfl
  | cons c source ih =>
    have hrow := distanceRow_cons_cons ih c
    have hhead : editDistance (c :: source) (d :: target) = _ := congrArg (List.headD · 0) hrow
    rw [hrow, hhead]
    rfl

/-! ## The recursion -/

theorem editDistance_nil_left (target : List Char) : editDistance [] target = target.length := by
  cases target <;> rfl

theorem editDistance_nil_right (source : List Char) : editDistance source [] = source.length := by
  have hrow : distanceRow source [] = [source.length] := by
    induction source with
    | nil => rfl
    | cons c source ih =>
      change nextRow c [] (distanceRow source []) = _
      rw [ih]
      rfl
  rw [editDistance, hrow]
  rfl

theorem editDistance_cons_cons (c : Char) (source : List Char) (d : Char) (target : List Char) :
    editDistance (c :: source) (d :: target) =
      min (editDistance source (d :: target) + 1)
        (min (editDistance (c :: source) target + 1)
          (editDistance source target + if c = d then 0 else 1)) :=
  congrArg (List.headD · 0) (distanceRow_cons_cons (distanceRow_cons source d target) c)

/-! ## Edits that reach the target -/

namespace Edits

variable {m n : Nat} {source between target : List Char}

theorem trans (h : Edits m source between) (h' : Edits n between target) :
    Edits (m + n) source target := by
  induction h with
  | none text => rwa [Nat.zero_add]
  | more hedit _ ih =>
    rw [Nat.succ_add]
    exact .more hedit (ih h')

theorem single (h : Edit source target) : Edits 1 source target :=
  .more h (.none target)

end Edits

theorem Edit.cons {source target : List Char} (x : Char) (h : Edit source target) :
    Edit (x :: source) (x :: target) := by
  cases h with
  | insert before c after => exact .insert (x :: before) c after
  | delete before c after => exact .delete (x :: before) c after
  | replace before c d after => exact .replace (x :: before) c d after

theorem Edits.cons {n : Nat} {source target : List Char} (x : Char) (h : Edits n source target) :
    Edits n (x :: source) (x :: target) := by
  induction h with
  | none text => exact .none (x :: text)
  | more hedit _ ih => exact .more (hedit.cons x) ih

theorem edits_of_nil (target : List Char) : Edits target.length [] target := by
  induction target with
  | nil => exact .none []
  | cons d target ih => exact .more (.insert [] d []) (ih.cons d)

theorem edits_to_nil (source : List Char) : Edits source.length source [] := by
  induction source with
  | nil => exact .none []
  | cons c source ih => exact .more (.delete [] c source) ih

/-- As many edits as the distance says lead to the target. -/
theorem edits_editDistance (source target : List Char) :
    Edits (editDistance source target) source target := by
  induction source generalizing target with
  | nil =>
    rw [editDistance_nil_left]
    exact edits_of_nil target
  | cons c source ih =>
    induction target with
    | nil =>
      rw [editDistance_nil_right]
      exact edits_to_nil (c :: source)
    | cons d target ih' =>
      rw [editDistance_cons_cons]
      -- The cheapest of the three ways to begin.
      rcases min_choice (editDistance source (d :: target) + 1)
          (min (editDistance (c :: source) target + 1)
            (editDistance source target + if c = d then 0 else 1)) with hdelete | hother
      · rw [hdelete]
        exact .more (.delete [] c source) (ih (d :: target))
      · rw [hother]
        rcases min_choice (editDistance (c :: source) target + 1)
            (editDistance source target + if c = d then 0 else 1) with hinsert | hmatch
        · rw [hinsert]
          exact ih'.trans (.single (.insert [] d target))
        · rw [hmatch]
          by_cases hcd : c = d
          · rw [if_pos hcd, hcd]
            exact (ih target).cons d
          · rw [if_neg hcd]
            exact .more (.replace [] c d source) ((ih target).cons d)

/-! ## No fewer edits -/

theorem editDistance_le_cons_right (source : List Char) (d : Char) (target : List Char) :
    editDistance source (d :: target) ≤ editDistance source target + 1 := by
  cases source with
  | nil => simp [editDistance_nil_left]
  | cons c source =>
    rw [editDistance_cons_cons]
    omega

theorem editDistance_cons_left_le (c : Char) (source target : List Char) :
    editDistance (c :: source) target ≤ editDistance source target + 1 := by
  cases target with
  | nil => simp [editDistance_nil_right]
  | cons d target =>
    rw [editDistance_cons_cons]
    omega

theorem editDistance_le_cons_left (c : Char) (source target : List Char) :
    editDistance source target ≤ editDistance (c :: source) target + 1 := by
  induction target with
  | nil =>
    rw [editDistance_nil_right, editDistance_nil_right, List.length_cons]
    omega
  | cons d target ih =>
    have hinsert := editDistance_le_cons_right source d target
    rw [editDistance_cons_cons]
    omega

theorem editDistance_replace_le (c d : Char) (source target : List Char) :
    editDistance (c :: source) target ≤ editDistance (d :: source) target + 1 := by
  induction target with
  | nil =>
    rw [editDistance_nil_right, editDistance_nil_right, List.length_cons, List.length_cons]
    omega
  | cons e target ih =>
    rw [editDistance_cons_cons, editDistance_cons_cons]
    have hcost : (if c = e then 0 else 1) ≤ 1 := by
      split <;> omega
    omega

/-- A first character that both texts have does not bring them apart. -/
theorem editDistance_cons_le {source between : List Char}
    (h : ∀ target, editDistance source target ≤ editDistance between target + 1) (x : Char)
    (target : List Char) :
    editDistance (x :: source) target ≤ editDistance (x :: between) target + 1 := by
  induction target with
  | nil =>
    have hnil := h []
    simp only [editDistance_nil_right, List.length_cons] at hnil ⊢
    omega
  | cons e target ih =>
    have hdelete := h (e :: target)
    have hmatch := h target
    rw [editDistance_cons_cons, editDistance_cons_cons]
    omega

theorem editDistance_append_le (before : List Char) {source between : List Char}
    (h : ∀ target, editDistance source target ≤ editDistance between target + 1)
    (target : List Char) :
    editDistance (before ++ source) target ≤ editDistance (before ++ between) target + 1 := by
  induction before generalizing target with
  | nil => exact h target
  | cons x before ih => exact editDistance_cons_le ih x target

/-- One edit of the source brings the target nearer by one at most. -/
theorem editDistance_le_of_edit {source between : List Char} (h : Edit source between)
    (target : List Char) :
    editDistance source target ≤ editDistance between target + 1 := by
  cases h with
  | insert before c after =>
    exact editDistance_append_le before (editDistance_le_cons_left c after) target
  | delete before c after =>
    exact editDistance_append_le before (editDistance_cons_left_le c after) target
  | replace before c d after =>
    exact editDistance_append_le before (editDistance_replace_le c d after) target

theorem editDistance_self (text : List Char) : editDistance text text = 0 := by
  induction text with
  | nil => rfl
  | cons c text ih =>
    rw [editDistance_cons_cons, if_pos rfl, ih]
    omega

theorem editDistance_le_of_edits {n : Nat} {source target : List Char}
    (h : Edits n source target) : editDistance source target ≤ n := by
  induction h with
  | none text => rw [editDistance_self]
  | more hedit _ ih => exact Nat.le_trans (editDistance_le_of_edit hedit _) (Nat.succ_le_succ ih)

/-- The distance is the least number of edits that lead from the source to the target. -/
theorem isLeast_editDistance (source target : List Char) :
    IsLeast {n | Edits n source target} (editDistance source target) :=
  ⟨edits_editDistance source target, fun _ h => editDistance_le_of_edits h⟩

theorem editDistance_eq_zero_iff {source target : List Char} :
    editDistance source target = 0 ↔ source = target := by
  constructor
  · intro h
    have hedits := edits_editDistance source target
    rw [h] at hedits
    cases hedits
    rfl
  · rintro rfl
    exact editDistance_self source

/-! ## Appending -/

theorem length_le_of_edit {source target : List Char} (h : Edit source target) :
    target.length ≤ source.length + 1 := by
  cases h <;> simp only [List.length_append, List.length_cons] <;> omega

/-- An edit adds one character at most. -/
theorem length_le_of_edits {n : Nat} {source target : List Char} (h : Edits n source target) :
    target.length ≤ source.length + n := by
  induction h with
  | none text => exact Nat.le_refl _
  | more hedit _ ih =>
    have := length_le_of_edit hedit
    omega

theorem edits_append (text more : List Char) : Edits more.length text (text ++ more) := by
  induction text with
  | nil => exact edits_of_nil more
  | cons c text ih => exact ih.cons c

theorem editDistance_append (text more : List Char) :
    editDistance text (text ++ more) = more.length := by
  refine Nat.le_antisymm (editDistance_le_of_edits (edits_append text more)) ?_
  have := length_le_of_edits (edits_editDistance text (text ++ more))
  rw [List.length_append] at this
  omega

/-- A character that is left out and one that is replaced. -/
example : editDistance "colour".toList "calor".toList = 2 := by decide

end Parlance.Text

import Parlance.Json.Reader

/-!
# How the reader goes through a text

The reader of JSON carries a bound on its steps. The bound is never met: whatever is read takes at
least a character of the text. So a value is what its equation says, without a bound.

Results:
1. `keeps_from`, `shortens_valueFrom`: what is left unread is an end of the text, and behind a value
   a shorter one.
2. `from_succ`: a bound that is as large as the text asks for may be larger.
3. `readValue_eq`, `readItems_eq`, `readMembers_eq`: the equations of the reader.
-/

namespace Parlance.Json

/-! ## Definitions -/

/-- A step that succeeds leaves at most `n` characters unread. -/
def Leaves {α : Type} (n : Nat) (step : Step α) : Prop :=
  ∀ a rest, step = .ok (a, rest) → rest.length ≤ n

/-- A step that succeeds leaves an end of `cs` unread. -/
def Keeps {α : Type} (cs : List Char) (step : Step α) : Prop :=
  ∀ a rest, step = .ok (a, rest) → rest <:+ cs

/-- A step that succeeds gives a number and leaves an end of `cs` unread. -/
def KeepsNumber (cs : List Char) (step : Step Json) : Prop :=
  ∀ j rest, step = .ok (j, rest) → ((∃ m, j = .integer m) ∨ ∃ x, j = .real x) ∧ rest <:+ cs

/-- A reading that succeeds has read something. -/
def Shortens {α : Type} (read : List Char → Step α) : Prop :=
  ∀ cs a rest, read cs = .ok (a, rest) → rest.length < cs.length

/-- A value, for given ways to read the items of a list and the members of an object behind their
opening brackets. -/
def valueWith (items members : (room : Nat) → List Char → Step Json) (room : Nat)
    (cs : List Char) : Step Json :=
  match skipSpace cs with
  | [] => stopOn .endInValue []
  | 'n' :: rest => readIdent .null ['u', 'l', 'l'] rest
  | 't' :: rest => readIdent (.bool true) ['r', 'u', 'e'] rest
  | 'f' :: rest => readIdent (.bool false) ['a', 'l', 's', 'e'] rest
  | '-' :: rest => readNumber true rest
  | '"' :: rest =>
    match readString rest with
    | .error stop => .error stop
    | .ok (s, rest) => .ok (.string s, rest)
  | '[' :: rest =>
    match room with
    | 0 => stopOn .recursionLimit ('[' :: rest)
    | room + 1 => items room rest
  | '\x7b' :: rest =>
    match room with
    | 0 => stopOn .recursionLimit ('\x7b' :: rest)
    | room + 1 => members room rest
  | c :: rest =>
    if c.isDigit then readNumber false (c :: rest) else stopOn .expectedValue (c :: rest)

/-- The parts of a list or an object from the next one on: `whole` if there is none, else those
behind it by `more`. -/
def partsWith {α : Type} (next : Step (Option α)) (value : List Char → Step Json)
    (more : α → Json → List Char → Step Json) (whole : Json) : Step Json :=
  match next with
  | .error stop => .error stop
  | .ok (none, rest) => .ok (whole, rest.drop 1)
  | .ok (some a, rest) =>
    match value rest with
    | .error stop => .error stop
    | .ok (j, rest) => more a j rest

/-- The items of a list behind those seen. -/
def readItems (room : Nat) (seen : List Json) (cs : List Char) : Step Json :=
  itemsFrom (2 * cs.length + 3) room seen cs

/-- The members of an object behind those seen. -/
def readMembers (room : Nat) (seen : List (String × Json)) (cs : List Char) : Step Json :=
  membersFrom (2 * cs.length + 3) room seen cs

/-! ## What a step leaves -/

namespace Keeps

variable {α : Type} {cs ds : List Char}

theorem ok {a : α} {rest : List Char} (h : rest <:+ cs) : Keeps cs (.ok (a, rest) : Step α) := by
  rintro _ _ heq
  cases heq
  exact h

theorem error {stop : Stop} : Keeps cs (.error stop : Step α) :=
  fun _ _ h => nomatch h

theorem mono {step : Step α} (h : Keeps cs step) (hsuffix : cs <:+ ds) : Keeps ds step :=
  fun a rest hstep => (h a rest hstep).trans hsuffix

theorem leaves {step : Step α} (h : Keeps cs step) : Leaves cs.length step :=
  fun a rest hstep => (h a rest hstep).length_le

end Keeps

namespace KeepsNumber

variable {cs ds : List Char}

theorem integer {k : Int} {rest : List Char} (h : rest <:+ cs) :
    KeepsNumber cs (.ok (.integer k, rest)) := by
  rintro _ _ heq
  cases heq
  exact ⟨.inl ⟨k, rfl⟩, h⟩

theorem real {x : Finite} {rest : List Char} (h : rest <:+ cs) :
    KeepsNumber cs (.ok (.real x, rest)) := by
  rintro _ _ heq
  cases heq
  exact ⟨.inr ⟨x, rfl⟩, h⟩

theorem error {stop : Stop} : KeepsNumber cs (.error stop) :=
  fun _ _ h => nomatch h

theorem mono {step : Step Json} (h : KeepsNumber cs step) (hsuffix : cs <:+ ds) :
    KeepsNumber ds step :=
  fun j rest hstep => ⟨(h j rest hstep).1, (h j rest hstep).2.trans hsuffix⟩

theorem keeps {step : Step Json} (h : KeepsNumber cs step) : Keeps cs step :=
  fun j rest hstep => (h j rest hstep).2

end KeepsNumber

theorem skipSpace_suffix (cs : List Char) : skipSpace cs <:+ cs :=
  List.dropWhile_suffix _

theorem suffix_of_skipSpace {cs rest : List Char} {c : Char} (h : skipSpace cs = c :: rest) :
    rest <:+ cs := by
  have hsuffix := skipSpace_suffix cs
  rw [h] at hsuffix
  exact (List.suffix_cons c rest).trans hsuffix

theorem length_lt_of_skipSpace {cs rest : List Char} {c : Char} (h : skipSpace cs = c :: rest) :
    rest.length < cs.length := by
  have hsuffix := skipSpace_suffix cs
  rw [h] at hsuffix
  exact hsuffix.length_le

theorem keeps_readIdent (value : Json) (expected cs : List Char) :
    Keeps cs (readIdent value expected cs) := by
  fun_induction readIdent value expected cs with
  | case1 rest => exact .ok (List.suffix_refl _)
  | case2 e expected => exact .error
  | case3 expected c rest ih => exact ih.mono (List.suffix_cons _ _)
  | case4 e expected c rest hne => exact .error

/-! ### Strings -/

theorem keeps_hexEscape (cs : List Char) : Keeps cs (hexEscape cs) := by
  unfold hexEscape
  dsimp only
  split
  · next a b c d rest =>
    split
    · exact .ok ⟨[a, b, c, d], rfl⟩
    · split <;> exact .error
  · split <;> exact .error

theorem keeps_trailingSurrogate (lead : Nat) (cs : List Char) :
    Keeps cs (trailingSurrogate lead cs) := by
  unfold trailingSurrogate
  split
  · exact .error
  · exact .error
  · next rest =>
    have hrest := keeps_hexEscape rest
    split
    · exact .error
    · next trail rest' heq =>
      split
      · exact .error
      · exact .ok ((hrest _ _ heq).trans ⟨['\\', 'u'], rfl⟩)
  · exact .error
  · exact .error

theorem keeps_numberedEscape (cs : List Char) : Keeps cs (numberedEscape cs) := by
  unfold numberedEscape
  have hescape := keeps_hexEscape cs
  split
  · exact .error
  · next n rest heq =>
    have hrest : rest <:+ cs := hescape _ _ heq
    split
    · exact .error
    · split
      · exact (keeps_trailingSurrogate n rest).mono hrest
      · exact .ok hrest

theorem keeps_escape (cs : List Char) : Keeps cs (escape cs) := by
  unfold escape
  split
  case h_10 rest => exact (keeps_numberedEscape rest).mono (List.suffix_cons _ _)
  all_goals first | exact .error | exact .ok (List.suffix_cons _ _)

theorem keeps_stringBody (fuel : Nat) (seen cs : List Char) :
    Keeps cs (stringBody fuel seen cs) := by
  fun_induction stringBody fuel seen cs with
  | case1 => exact .error
  | case2 => exact .error
  | case3 => exact .ok (List.suffix_cons _ _)
  | case4 => exact .error
  | case5 fuel seen rest c rest' heq ih =>
    exact ih.mono ((keeps_escape rest _ _ heq).trans (List.suffix_cons _ _))
  | case6 => exact .error
  | case7 fuel seen c rest _ _ _ ih => exact ih.mono (List.suffix_cons _ _)

theorem keeps_readString (cs : List Char) : Keeps cs (readString cs) :=
  keeps_stringBody _ _ _

/-! ### Numbers -/

theorem accumulate_suffix (n : Nat) (cs : List Char) : (accumulate n cs).2.2 <:+ cs := by
  fun_induction accumulate n cs with
  | case1 => exact List.suffix_refl _
  | case2 n c rest next hnext total count rest' heq ih =>
    rw [heq] at ih
    exact ih.trans (List.suffix_cons _ _)
  | case3 => exact List.suffix_refl _

theorem keepsNumber_ofParts (negative : Bool) (significand : Nat) (exponent : Int)
    (rest : List Char) : KeepsNumber rest (ofParts negative significand exponent rest) := by
  rw [ofParts]
  cases magnitude significand exponent with
  | none => exact .error
  | some x => exact .real (List.suffix_refl _)

theorem exponentDigits_suffix (n : Nat) (cs : List Char) : (exponentDigits n cs).2 <:+ cs := by
  fun_induction exponentDigits n cs with
  | case1 => exact List.suffix_refl _
  | case2 => exact List.suffix_refl _
  | case3 n c rest next hdigit hlt ih => exact ih.trans (List.suffix_cons _ _)
  | case4 n c rest => exact List.suffix_cons _ _

theorem splitSign_suffix (cs : List Char) : (splitSign cs).2 <:+ cs := by
  unfold splitSign
  split
  · exact List.suffix_cons _ _
  · exact List.suffix_cons _ _
  · exact List.suffix_refl _

theorem keepsNumber_exponentPart (negative : Bool) (significand : Nat) (start : Int)
    (cs : List Char) : KeepsNumber cs (exponentPart negative significand start cs) := by
  unfold exponentPart
  have hsign := splitSign_suffix cs
  dsimp only
  split
  · exact .error
  · next c rest heq =>
    rw [heq] at hsign
    have hdigits := exponentDigits_suffix 0 (c :: rest)
    split
    · exact .error
    · split
      · next n rest' hn =>
        rw [hn] at hdigits
        exact (keepsNumber_ofParts _ _ _ _).mono (hdigits.trans hsign)
      · next rest' hn =>
        rw [hn] at hdigits
        split
        · exact .error
        · have hdrop : rest'.dropWhile Char.isDigit <:+ rest' := List.dropWhile_suffix _
          exact .real (hdrop.trans (hdigits.trans hsign))

theorem keepsNumber_fractionEnd (negative : Bool) (significand : Nat) (exponent : Int)
    (cs : List Char) : KeepsNumber cs (fractionEnd negative significand exponent cs) := by
  unfold fractionEnd
  split
  · exact (keepsNumber_exponentPart _ _ _ _).mono (List.suffix_cons _ _)
  · exact (keepsNumber_exponentPart _ _ _ _).mono (List.suffix_cons _ _)
  · exact keepsNumber_ofParts _ _ _ _

theorem keepsNumber_placesPart (negative : Bool) (significand skipped : Nat) (cs : List Char) :
    KeepsNumber cs (placesPart negative significand skipped cs) := by
  unfold placesPart
  have hrest := accumulate_suffix significand cs
  dsimp only
  split
  · split <;> exact .error
  · exact (keepsNumber_fractionEnd _ _ _ _).mono ((List.drop_suffix _ _).trans hrest)

theorem keepsNumber_wholeEnd (negative : Bool) (significand : Nat) (cs : List Char) :
    KeepsNumber cs (wholeEnd negative significand cs) := by
  unfold wholeEnd
  split
  · exact (keepsNumber_placesPart _ _ _ _).mono (List.suffix_cons _ _)
  · exact (keepsNumber_exponentPart _ _ _ _).mono (List.suffix_cons _ _)
  · exact (keepsNumber_exponentPart _ _ _ _).mono (List.suffix_cons _ _)
  · split
    · exact .integer (List.suffix_refl _)
    · split
      · exact .integer (List.suffix_refl _)
      · exact keepsNumber_ofParts _ _ _ _

/-- A digit is always read. -/
theorem accumulate_cons_suffix {c : Char} (h : c.isDigit = true) (rest : List Char) :
    (accumulate 0 (c :: rest)).2.2 <:+ rest := by
  have hlt : 10 * 0 + (c.toNat - '0'.toNat) < significandLimit := by
    have hc : c.toNat ≤ 57 := by
      simp only [Char.isDigit, Bool.and_eq_true, decide_eq_true_eq] at h
      exact h.2
    have hlimit : significandLimit = 18446744073709551616 := rfl
    rw [hlimit]
    omega
  have hrest := accumulate_suffix (10 * 0 + (c.toNat - '0'.toNat)) rest
  rw [accumulate]
  simp only [h, hlt, decide_true, Bool.and_true, if_true]
  exact hrest

theorem keepsNumber_readNumber (negative : Bool) (cs : List Char) :
    KeepsNumber cs.tail (readNumber negative cs) := by
  unfold readNumber
  split
  · exact .error
  · split
    · split
      · exact .error
      · exact keepsNumber_wholeEnd _ _ _
    · exact keepsNumber_wholeEnd _ _ _
  · next c rest hzero =>
    split
    · exact .error
    · next hdigit =>
      have haccumulate : (accumulate 0 (c :: rest)).2.2 <:+ rest :=
        accumulate_cons_suffix (by simpa using hdigit) rest
      dsimp only
      generalize (accumulate 0 (c :: rest)).2.2 = unread at haccumulate
      have hdrop : unread.drop (unread.takeWhile Char.isDigit).length <:+ rest :=
        (List.drop_suffix _ _).trans haccumulate
      split
      · exact (keepsNumber_wholeEnd _ _ _).mono hdrop
      · split
        · next places heq =>
          rw [heq] at hdrop
          exact (keepsNumber_placesPart _ _ _ _).mono ((List.suffix_cons _ _).trans hdrop)
        · exact (keepsNumber_fractionEnd _ _ _ _).mono hdrop

/-! ### Values -/

theorem keeps_nextItem (first : Bool) (cs : List Char) : Keeps cs (nextItem first cs) := by
  have hspace := skipSpace_suffix cs
  unfold nextItem
  split
  · exact .error
  · next rest heq =>
    rw [heq] at hspace
    exact .ok hspace
  · next c rest _ heq =>
    rw [heq] at hspace
    split
    · exact .ok hspace
    · split
      · split
        · exact .error
        · exact .error
        · exact .ok ((skipSpace_suffix rest).trans (suffix_of_skipSpace heq))
      · exact .error

theorem keeps_readName (cs : List Char) : Keeps cs (readName cs) := by
  have hstring := keeps_readString cs
  unfold readName
  split
  · exact .error
  · next name rest heq =>
    split
    · exact .error
    · next rest' hcolon => exact .ok ((suffix_of_skipSpace hcolon).trans (hstring _ _ heq))
    · exact .error

theorem keeps_nextName (first : Bool) (cs : List Char) : Keeps cs (nextName first cs) := by
  have hspace := skipSpace_suffix cs
  unfold nextName
  split
  · exact .error
  · next rest heq =>
    rw [heq] at hspace
    exact .ok hspace
  · next c rest _ heq =>
    have hrest : rest <:+ cs := suffix_of_skipSpace heq
    split
    · split
      · exact (keeps_readName rest).mono hrest
      · exact .error
    · split
      · split
        · exact .error
        · next rest' hquote =>
          exact (keeps_readName rest').mono ((suffix_of_skipSpace hquote).trans hrest)
        · exact .error
        · exact .error
      · exact .error

section

variable {items members items' members' : (room : Nat) → List Char → Step Json}

theorem keeps_valueWith (hitems : ∀ room rest, Keeps rest (items room rest))
    (hmembers : ∀ room rest, Keeps rest (members room rest)) (room : Nat)
    {c : Char} {cs behind : List Char} (h : skipSpace cs = c :: behind) :
    Keeps behind (valueWith items members room cs) := by
  have hbehind : ∀ {d rest}, skipSpace cs = d :: rest → rest <:+ behind := by
    intro d rest heq
    rw [h] at heq
    obtain ⟨_, rfl⟩ := List.cons.inj heq
    exact List.suffix_refl _
  unfold valueWith
  split
  case h_1 => exact .error
  case h_2 rest heq => exact (keeps_readIdent _ _ _).mono (hbehind heq)
  case h_3 rest heq => exact (keeps_readIdent _ _ _).mono (hbehind heq)
  case h_4 rest heq => exact (keeps_readIdent _ _ _).mono (hbehind heq)
  case h_5 rest heq =>
    exact (keepsNumber_readNumber _ _).keeps.mono ((List.tail_suffix _).trans (hbehind heq))
  case h_6 rest heq =>
    split
    · exact .error
    · next s rest' hs => exact .ok ((keeps_readString _ _ _ hs).trans (hbehind heq))
  case h_7 rest heq =>
    cases room with
    | zero => exact .error
    | succ room => exact (hitems room rest).mono (hbehind heq)
  case h_8 rest heq =>
    cases room with
    | zero => exact .error
    | succ room => exact (hmembers room rest).mono (hbehind heq)
  case h_9 d rest _ _ _ _ _ _ _ heq =>
    split
    · exact (keepsNumber_readNumber _ _).keeps.mono (hbehind heq)
    · exact .error

/-- A value takes at least one character. -/
theorem shortens_valueWith (hitems : ∀ room rest, Keeps rest (items room rest))
    (hmembers : ∀ room rest, Keeps rest (members room rest)) (room : Nat) :
    Shortens (valueWith items members room) := by
  intro cs j rest h
  cases hspace : skipSpace cs with
  | nil =>
    rw [valueWith, hspace] at h
    cases h
  | cons c behind =>
    have hle := (keeps_valueWith hitems hmembers room hspace _ _ h).length_le
    exact Nat.lt_of_le_of_lt hle (length_lt_of_skipSpace hspace)

/-- A value depends on how lists and objects behind its first character are read. -/
theorem valueWith_congr {cs : List Char}
    (hitems : ∀ room rest, rest.length < cs.length → items room rest = items' room rest)
    (hmembers : ∀ room rest, rest.length < cs.length → members room rest = members' room rest)
    (room : Nat) : valueWith items members room cs = valueWith items' members' room cs := by
  unfold valueWith
  split
  case h_7 rest heq =>
    cases room with
    | zero => rfl
    | succ room => exact hitems room rest (length_lt_of_skipSpace heq)
  case h_8 rest heq =>
    cases room with
    | zero => rfl
    | succ room => exact hmembers room rest (length_lt_of_skipSpace heq)
  all_goals rfl

end

section

variable {α : Type} {n : Nat} {cs : List Char} {next : Step (Option α)}
  {value value' : List Char → Step Json} {more more' : α → Json → List Char → Step Json}
  {whole : Json}

theorem keeps_partsWith (hnext : Keeps cs next) (hvalue : ∀ rest, Keeps rest (value rest))
    (hmore : ∀ a j rest, Keeps rest (more a j rest)) :
    Keeps cs (partsWith next value more whole) := by
  unfold partsWith
  split
  · exact .error
  · next rest => exact .ok ((List.drop_suffix _ _).trans (hnext _ _ rfl))
  · next a rest =>
    split
    · exact .error
    · next j rest' hj =>
      exact (hmore a j rest').mono ((hvalue rest _ _ hj).trans (hnext _ _ rfl))

/-- The parts depend on how the next value is read, and those behind it. -/
theorem partsWith_congr (hnext : Leaves n next) (hshortens : Shortens value)
    (hvalue : ∀ rest, rest.length ≤ n → value rest = value' rest)
    (hmore : ∀ a j rest, rest.length < n → more a j rest = more' a j rest) :
    partsWith next value more whole = partsWith next value' more' whole := by
  unfold partsWith
  split
  · rfl
  · rfl
  · next a rest =>
    have hrest : rest.length ≤ n := hnext _ _ rfl
    rw [← hvalue rest hrest]
    split
    · rfl
    · next j rest' hj => exact hmore a j rest' (Nat.lt_of_lt_of_le (hshortens rest _ _ hj) hrest)

end

/-! ## One step -/

theorem valueFrom_succ (fuel room : Nat) (cs : List Char) :
    valueFrom (fuel + 1) room cs =
      valueWith (fun room => itemsFrom fuel room []) (fun room => membersFrom fuel room [])
        room cs := by
  rw [valueFrom]
  rfl

theorem itemsFrom_succ (fuel room : Nat) (seen : List Json) (cs : List Char) :
    itemsFrom (fuel + 1) room seen cs =
      partsWith (nextItem seen.isEmpty cs) (valueFrom fuel room)
        (fun _ j => itemsFrom fuel room (j :: seen)) (.array seen.reverse) := by
  rw [itemsFrom]
  unfold partsWith
  rcases nextItem seen.isEmpty cs with _ | ⟨_ | _, rest⟩ <;> rfl

theorem membersFrom_succ (fuel room : Nat) (seen : List (String × Json)) (cs : List Char) :
    membersFrom (fuel + 1) room seen cs =
      partsWith (nextName seen.isEmpty cs) (valueFrom fuel room)
        (fun name j => membersFrom fuel room ((name, j) :: seen)) (.object seen.reverse) := by
  rw [membersFrom]
  unfold partsWith
  rcases nextName seen.isEmpty cs with _ | ⟨_ | _, rest⟩ <;> rfl

/-! ## All steps -/

theorem keeps_from (fuel : Nat) :
    (∀ room cs, Keeps cs (valueFrom fuel room cs)) ∧
    (∀ room seen cs, Keeps cs (itemsFrom fuel room seen cs)) ∧
    ∀ room seen cs, Keeps cs (membersFrom fuel room seen cs) := by
  induction fuel with
  | zero =>
    refine ⟨fun room cs => ?_, fun room seen cs => ?_, fun room seen cs => ?_⟩
    · rw [valueFrom]
      exact .error
    · rw [itemsFrom]
      exact .error
    · rw [membersFrom]
      exact .error
  | succ fuel ih =>
    obtain ⟨hvalue, hitems, hmembers⟩ := ih
    refine ⟨fun room cs => ?_, fun room seen cs => ?_, fun room seen cs => ?_⟩
    · rw [valueFrom_succ]
      cases hspace : skipSpace cs with
      | nil =>
        rw [valueWith, hspace]
        exact .error
      | cons c behind =>
        exact (keeps_valueWith (fun room => hitems room []) (fun room => hmembers room [])
          room hspace).mono (suffix_of_skipSpace hspace)
    · rw [itemsFrom_succ]
      exact keeps_partsWith (keeps_nextItem _ cs) (hvalue room) fun _ j => hitems room (j :: seen)
    · rw [membersFrom_succ]
      exact keeps_partsWith (keeps_nextName _ cs) (hvalue room) fun name j =>
        hmembers room ((name, j) :: seen)

theorem shortens_valueFrom (fuel room : Nat) : Shortens (valueFrom fuel room) := by
  intro cs j rest h
  cases fuel with
  | zero =>
    rw [valueFrom] at h
    cases h
  | succ fuel =>
    obtain ⟨-, hitems, hmembers⟩ := keeps_from fuel
    rw [valueFrom_succ] at h
    have hshortens :=
      shortens_valueWith (fun room => hitems room []) (fun room => hmembers room []) room
    exact hshortens _ _ _ h

/-- Between an opening bracket and the next there are two steps, one for the value and one for the
part that it is. -/
theorem from_succ (fuel : Nat) :
    (∀ room cs, 2 * cs.length + 2 ≤ fuel →
      valueFrom (fuel + 1) room cs = valueFrom fuel room cs) ∧
    (∀ room seen cs, 2 * cs.length + 3 ≤ fuel →
      itemsFrom (fuel + 1) room seen cs = itemsFrom fuel room seen cs) ∧
    ∀ room seen cs, 2 * cs.length + 3 ≤ fuel →
      membersFrom (fuel + 1) room seen cs = membersFrom fuel room seen cs := by
  induction fuel with
  | zero =>
    refine ⟨fun _ _ h => ?_, fun _ _ _ h => ?_, fun _ _ _ h => ?_⟩ <;> omega
  | succ fuel ih =>
    obtain ⟨hvalue, hitems, hmembers⟩ := ih
    have hshortens := shortens_valueFrom (fuel + 1)
    refine ⟨fun room cs h => ?_, fun room seen cs h => ?_, fun room seen cs h => ?_⟩
    · rw [valueFrom_succ, valueFrom_succ]
      exact valueWith_congr (fun room rest hrest => hitems room [] rest (by omega))
        (fun room rest hrest => hmembers room [] rest (by omega)) room
    · rw [itemsFrom_succ, itemsFrom_succ]
      exact partsWith_congr (keeps_nextItem _ cs).leaves (hshortens room)
        (fun rest hrest => hvalue room rest (by omega))
        fun _ j rest hrest => hitems room (j :: seen) rest (by omega)
    · rw [membersFrom_succ, membersFrom_succ]
      exact partsWith_congr (keeps_nextName _ cs).leaves (hshortens room)
        (fun rest hrest => hvalue room rest (by omega))
        fun name j rest hrest => hmembers room ((name, j) :: seen) rest (by omega)

theorem valueFrom_eq_readValue {fuel : Nat} {cs : List Char} (h : 2 * cs.length + 2 ≤ fuel)
    (room : Nat) : valueFrom fuel room cs = readValue room cs := by
  induction h with
  | refl => rfl
  | @step fuel h ih => rw [(from_succ fuel).1 room cs h, ih]

theorem itemsFrom_eq_readItems {fuel : Nat} {cs : List Char} (h : 2 * cs.length + 3 ≤ fuel)
    (room : Nat) (seen : List Json) : itemsFrom fuel room seen cs = readItems room seen cs := by
  induction h with
  | refl => rfl
  | @step fuel h ih => rw [(from_succ fuel).2.1 room seen cs h, ih]

theorem membersFrom_eq_readMembers {fuel : Nat} {cs : List Char} (h : 2 * cs.length + 3 ≤ fuel)
    (room : Nat) (seen : List (String × Json)) :
    membersFrom fuel room seen cs = readMembers room seen cs := by
  induction h with
  | refl => rfl
  | @step fuel h ih => rw [(from_succ fuel).2.2 room seen cs h, ih]

/-! ## The equations of the reader -/

theorem shortens_readValue (room : Nat) : Shortens (readValue room) :=
  fun cs => shortens_valueFrom _ room cs

theorem keeps_readValue (room : Nat) (cs : List Char) : Keeps cs (readValue room cs) :=
  (keeps_from _).1 room cs

theorem readValue_eq (room : Nat) (cs : List Char) :
    readValue room cs =
      valueWith (fun room => readItems room []) (fun room => readMembers room []) room cs := by
  rw [readValue, valueFrom_succ]
  exact valueWith_congr (fun room rest h => itemsFrom_eq_readItems (by omega) room [])
    (fun room rest h => membersFrom_eq_readMembers (by omega) room []) room

theorem readItems_eq (room : Nat) (seen : List Json) (cs : List Char) :
    readItems room seen cs =
      partsWith (nextItem seen.isEmpty cs) (readValue room)
        (fun _ j => readItems room (j :: seen)) (.array seen.reverse) := by
  rw [readItems, itemsFrom_succ]
  exact partsWith_congr (keeps_nextItem _ cs).leaves (shortens_valueFrom _ room)
    (fun rest h => valueFrom_eq_readValue (by omega) room)
    fun _ j rest h => itemsFrom_eq_readItems (by omega) room (j :: seen)

theorem readMembers_eq (room : Nat) (seen : List (String × Json)) (cs : List Char) :
    readMembers room seen cs =
      partsWith (nextName seen.isEmpty cs) (readValue room)
        (fun name j => readMembers room ((name, j) :: seen)) (.object seen.reverse) := by
  rw [readMembers, membersFrom_succ]
  exact partsWith_congr (keeps_nextName _ cs).leaves (shortens_valueFrom _ room)
    (fun rest h => valueFrom_eq_readValue (by omega) room)
    fun name j rest h => membersFrom_eq_readMembers (by omega) room ((name, j) :: seen)

/-! ## Objects -/

theorem exists_array_of_itemsFrom {fuel room : Nat} {seen : List Json} {cs rest : List Char}
    {j : Json} (h : itemsFrom fuel room seen cs = .ok (j, rest)) :
    ∃ more, j = .array (seen.reverse ++ more) := by
  induction fuel generalizing seen cs with
  | zero => cases h
  | succ fuel ih =>
    rw [itemsFrom_succ] at h
    unfold partsWith at h
    split at h
    · cases h
    · cases h
      exact ⟨[], by rw [List.append_nil]⟩
    · split at h
      · cases h
      · next j' rest' _ =>
        obtain ⟨more, rfl⟩ := ih h
        exact ⟨j' :: more, by simp⟩

theorem exists_object_of_membersFrom {fuel room : Nat} {seen : List (String × Json)}
    {cs rest : List Char} {j : Json} (h : membersFrom fuel room seen cs = .ok (j, rest)) :
    ∃ more, j = .object (seen.reverse ++ more) := by
  induction fuel generalizing seen cs with
  | zero => cases h
  | succ fuel ih =>
    rw [membersFrom_succ] at h
    unfold partsWith at h
    split at h
    · cases h
    · cases h
      exact ⟨[], by rw [List.append_nil]⟩
    · split at h
      · cases h
      · next j' rest' _ =>
        obtain ⟨more, rfl⟩ := ih h
        exact ⟨(_, j') :: more, by rw [List.reverse_cons, List.append_assoc]; rfl⟩

theorem eq_of_readIdent {value j : Json} {expected cs rest : List Char}
    (h : readIdent value expected cs = .ok (j, rest)) : j = value := by
  fun_induction readIdent value expected cs with
  | case1 => exact (Prod.mk.inj (Except.ok.inj h)).1.symm
  | case2 => cases h
  | case3 expected c cs ih => exact ih h
  | case4 => cases h

theorem readValue_of_brace {cs behind : List Char} (h : skipSpace cs = '\x7b' :: behind)
    (room : Nat) : readValue (room + 1) cs = readMembers room [] behind := by
  rw [readValue_eq, valueWith, h]
  rfl

/-- An object begins with a brace. -/
theorem exists_brace_of_readValue {room : Nat} {cs rest : List Char}
    {fields : List (String × Json)} (h : readValue room cs = .ok (.object fields, rest)) :
    ∃ behind, skipSpace cs = '\x7b' :: behind := by
  rw [readValue_eq] at h
  unfold valueWith at h
  have hnumber : ∀ {negative cs}, readNumber negative cs ≠ .ok (.object fields, rest) := by
    intro negative cs heq
    rcases (keepsNumber_readNumber negative cs _ _ heq).1 with ⟨_, h⟩ | ⟨_, h⟩ <;> cases h
  split at h
  case h_1 => cases h
  case h_2 => cases eq_of_readIdent h
  case h_3 => cases eq_of_readIdent h
  case h_4 => cases eq_of_readIdent h
  case h_5 => exact absurd h hnumber
  case h_6 => split at h <;> cases h
  case h_7 =>
    split at h
    · cases h
    · obtain ⟨more, heq⟩ := exists_array_of_itemsFrom h
      cases heq
  case h_8 behind heq => exact ⟨behind, heq⟩
  case h_9 =>
    split at h
    · exact absurd h hnumber
    · cases h

/-! ## Texts -/

theorem parse_eq_ok_iff {room : Nat} {text : String} {j : Json} :
    parse room text = .ok j ↔
      ∃ rest, readValue room text.toList = .ok (j, rest) ∧ readEnd rest = .ok () := by
  unfold parse
  simp only [bind, Except.bind]
  constructor
  · intro h
    split at h
    · cases h
    · next value heq =>
      split at h
      · cases h
      · next hend =>
        cases h
        exact ⟨value.2, heq, hend⟩
  · rintro ⟨rest, heq, hend⟩
    rw [heq]
    dsimp only
    rw [hend]
    rfl

end Parlance.Json

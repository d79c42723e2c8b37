import Mathlib.Data.List.DropRight
import Mathlib.Data.List.Forall2
import Mathlib.Data.List.TakeWhile
import Parlance.Locale.Default

/-!
# Normal forms of locales

A raw name is trimmed, cut where its encoding or modifier begins, trimmed again and rewritten with
underscores, and what is then a tag is its locale. Said without these steps: the name spells the
locale with underscores or hyphens, and goes on after blanks with what does not matter.

Results:
1. `Text.exists_eq_append_trim`, `Text.trim_append`: what trimming takes off.
2. `isTag_iff`: which texts are tags, by their segments.
3. `spells_of_normalize`, `normalize_of_spells`: which names stand for a tag.
4. `normalize_exact`: the locale of a name, and the default locale.
-/

namespace Parlance

/-! ## Blanks -/

namespace Text

theorem dropWhileEnd_eq {α : Type} (p : α → Bool) (xs : List α) :
    dropWhileEnd p xs = xs.rdropWhile p :=
  rfl

/-- Only blanks are trimmed. -/
theorem exists_eq_append_trim (cs : List Char) : ∃ left right, cs = left ++ trim cs ++ right ∧
    (∀ c ∈ left, isBlank c = true) ∧ ∀ c ∈ right, isBlank c = true := by
  refine ⟨cs.takeWhile isBlank, (cs.dropWhile isBlank).rtakeWhile isBlank, ?_,
    fun c => List.mem_takeWhile_imp, fun c => List.mem_rtakeWhile_imp⟩
  rw [trim, dropWhileEnd_eq, List.append_assoc, List.rdropWhile_append_rtakeWhile,
    List.takeWhile_append_dropWhile]

/-- Blanks behind a text without blanks are trimmed. -/
theorem trim_append {cs blanks : List Char} (hcs : ∀ c ∈ cs, isBlank c = false)
    (hblanks : ∀ c ∈ blanks, isBlank c = true) : trim (cs ++ blanks) = cs := by
  have hend : cs.reverse.dropWhile isBlank = cs.reverse := by
    refine List.dropWhile_eq_self_iff.2 fun hlength => ?_
    rw [hcs _ (List.mem_reverse.1 (List.getElem_mem _))]
    exact Bool.false_ne_true
  cases cs with
  | nil =>
    rw [trim, List.nil_append, List.dropWhile_eq_nil_iff.2 hblanks]
    rfl
  | cons c rest =>
    have hfirst : ¬isBlank c = true := by simp [hcs c List.mem_cons_self]
    rw [trim, List.cons_append, List.dropWhile_cons_of_neg hfirst, dropWhileEnd,
      ← List.cons_append, List.reverse_append, List.dropWhile_append_of_pos
        fun d hd => hblanks d (List.mem_reverse.1 hd), hend, List.reverse_reverse]

/-- A trimmed text does not begin with a blank. -/
theorem not_isBlank_of_trim {cs : List Char} {c : Char} {rest : List Char}
    (h : trim cs = c :: rest) : isBlank c = false := by
  have hprefix : c :: rest <+: cs.dropWhile isBlank := h ▸ List.rdropWhile_prefix isBlank _
  obtain ⟨more, hmore⟩ := hprefix
  have hhead := List.head?_dropWhile_not isBlank cs
  rw [← hmore] at hhead
  exact hhead

end Text

namespace Locale

/-! ## Definitions -/

/-- A locale is one or more segments of ASCII letters and digits, joined by underscores, and none of
the names that stand for no locale. -/
structure WellFormed (locale : String) : Prop where
  joined : ∃ parts : List (List Char), parts ≠ [] ∧
    (∀ part ∈ parts, part ≠ [] ∧ ∀ c ∈ part, c.isAlphanum = true) ∧
    locale.toList = ['_'].intercalate parts
  real : locale ≠ "C" ∧ locale ≠ "POSIX"

/-- A raw name spells a locale: trimmed, it is the locale, perhaps with hyphens for underscores,
then perhaps blanks, and then nothing or a point or an at sign with anything behind. -/
def Spells (raw locale : String) : Prop :=
  ∃ written blanks suffix, Text.trim raw.toList = written ++ blanks ++ suffix ∧
    List.Forall₂ (fun c w => w = c ∨ c = '_' ∧ w = '-') locale.toList written ∧
    (∀ c ∈ blanks, Text.isBlank c = true) ∧
    (suffix = [] ∨ ∃ c rest, suffix = c :: rest ∧ (c = '.' ∨ c = '@'))

/-- There is a raw name, and it spells this well-formed locale. -/
def Names (raw : Option String) (locale : String) : Prop :=
  ∃ text, raw = some text ∧ WellFormed locale ∧ Spells text locale

/-! ## Tags -/

theorem mem_intercalate {parts : List (List Char)} {c : Char}
    (h : c ∈ ['_'].intercalate parts) : c = '_' ∨ ∃ part ∈ parts, c ∈ part := by
  induction parts with
  | nil => simp at h
  | cons part rest ih =>
    cases rest with
    | nil => exact Or.inr ⟨part, List.mem_cons_self, by simpa using h⟩
    | cons next rest =>
      rw [List.intercalate_cons_cons, List.mem_append, List.mem_append] at h
      rcases h with (hpart | hline) | hrest
      · exact Or.inr ⟨part, List.mem_cons_self, hpart⟩
      · exact Or.inl (List.mem_singleton.1 hline)
      · exact (ih hrest).imp_right fun ⟨p, hp, hc⟩ => ⟨p, List.mem_cons_of_mem _ hp, hc⟩

theorem isSegment_iff {segment : List Char} :
    isSegment segment = true ↔ segment ≠ [] ∧ ∀ c ∈ segment, c.isAlphanum = true := by
  simp [isSegment]

theorem isTag_iff {locale : String} : isTag locale.toList = true ↔ WellFormed locale := by
  have hreal : (!(placeholders.map String.toList).contains locale.toList) = true ↔
      locale ≠ "C" ∧ locale ≠ "POSIX" := by
    simp [placeholders, ← String.toList_inj]
  rw [isTag, Bool.and_eq_true, hreal, List.all_eq_true]
  constructor
  · rintro ⟨hsegments, hreal⟩
    exact ⟨⟨segments locale.toList, List.splitOn_ne_nil _ _,
      fun part hpart => isSegment_iff.1 (hsegments part hpart),
      (List.intercalate_splitOn '_').symm⟩, hreal⟩
  · rintro ⟨⟨parts, hne, hparts, hjoined⟩, hreal⟩
    have hsplit : segments locale.toList = parts := by
      rw [segments, hjoined, List.splitOn_intercalate '_' (fun part hpart hmem => ?_) hne]
      exact absurd ((hparts part hpart).2 '_' hmem) (by decide)
    exact ⟨fun part hpart => isSegment_iff.2 (hparts part (hsplit ▸ hpart)), hreal⟩

/-- The characters of a locale. -/
theorem WellFormed.underscore_or_isAlphanum {locale : String} (h : WellFormed locale) {c : Char}
    (hc : c ∈ locale.toList) : c = '_' ∨ c.isAlphanum = true := by
  obtain ⟨parts, -, hparts, hjoined⟩ := h.joined
  rw [hjoined] at hc
  exact (mem_intercalate hc).imp_right fun ⟨part, hpart, hmem⟩ => (hparts part hpart).2 c hmem

/-! ## Spellings -/

theorem isBlank_of_isAlphanum {c : Char} (h : c.isAlphanum = true) : Text.isBlank c = false := by
  have hranges : (decide ('A'.val ≤ c.val ∧ c.val ≤ 'Z'.val) ||
      decide ('a'.val ≤ c.val) && decide (c.val ≤ 'z'.val) ||
      decide ('0'.val ≤ c.val) && decide (c.val ≤ '9'.val)) = true := h
  simp only [Bool.or_eq_true, Bool.and_eq_true, decide_eq_true_eq, UInt32.le_iff_toNat_le,
    Char.toNat_val, Char.reduceToNat] at hranges
  -- Blanks are below the digits or above the letters.
  have hbounds : 48 ≤ c.toNat ∧ c.toNat ≤ 122 := by omega
  simp only [Text.isBlank, Bool.or_eq_false_iff, Bool.and_eq_false_iff, decide_eq_false_iff_not,
    beq_eq_false_iff_ne]
  omega

theorem beginsSuffix_iff {c : Char} : beginsSuffix c = true ↔ c = '.' ∨ c = '@' := by
  simp [beginsSuffix]

/-- How a locale may be written, letter by letter. -/
abbrev IsWrittenFor (c w : Char) : Prop :=
  w = c ∨ c = '_' ∧ w = '-'

/-- No character of a written locale is a blank or begins a suffix. -/
theorem plain_of_written {cs written : List Char}
    (hcs : ∀ c ∈ cs, c = '_' ∨ c.isAlphanum = true)
    (hwritten : List.Forall₂ IsWrittenFor cs written) :
    ∀ w ∈ written, Text.isBlank w = false ∧ beginsSuffix w = false := by
  induction hwritten with
  | nil => exact fun _ hw => by cases hw
  | @cons c w cs written hcw _ ih =>
    rw [List.forall_mem_cons] at hcs ⊢
    refine ⟨?_, ih hcs.2⟩
    rcases hcw with rfl | ⟨-, rfl⟩
    · rcases hcs.1 with rfl | halnum
      · decide
      · refine ⟨isBlank_of_isAlphanum halnum, Bool.eq_false_iff.2 fun hbegins => ?_⟩
        rcases beginsSuffix_iff.1 hbegins with rfl | rfl <;> cases halnum
    · decide

theorem underscored_of_written {cs written : List Char}
    (hcs : ∀ c ∈ cs, c = '_' ∨ c.isAlphanum = true)
    (hwritten : List.Forall₂ IsWrittenFor cs written) : underscored written = cs := by
  induction hwritten with
  | nil => rfl
  | @cons c w cs written hcw _ ih =>
    rw [List.forall_mem_cons] at hcs
    rw [underscored, List.map_cons]
    refine congrArg₂ _ ?_ (ih hcs.2)
    rcases hcw with rfl | ⟨rfl, rfl⟩
    · refine if_neg ?_
      rintro rfl
      exact absurd hcs.1 (by decide)
    · rfl

theorem written_underscored (written : List Char) :
    List.Forall₂ IsWrittenFor (underscored written) written := by
  rw [underscored, List.forall₂_map_left_iff, List.forall₂_same]
  intro w _
  by_cases h : w = '-'
  · exact Or.inr ⟨if_pos h, h⟩
  · exact Or.inl (if_neg h).symm

/-- What a name is cut at begins a suffix. -/
theorem suffix_withoutSuffix (cs : List Char) : ∃ suffix, cs = withoutSuffix cs ++ suffix ∧
    (suffix = [] ∨ ∃ c rest, suffix = c :: rest ∧ (c = '.' ∨ c = '@')) := by
  refine ⟨_, List.takeWhile_append_dropWhile.symm, ?_⟩
  have hhead := List.head?_dropWhile_not (fun c => !beginsSuffix c) cs
  cases hsuffix : cs.dropWhile fun c => !beginsSuffix c with
  | nil => exact Or.inl rfl
  | cons c rest =>
    rw [hsuffix] at hhead
    exact Or.inr ⟨c, rest, rfl, beginsSuffix_iff.1 (by simpa using hhead)⟩

theorem withoutSuffix_append {cs suffix : List Char} (hcs : ∀ c ∈ cs, beginsSuffix c = false)
    (hsuffix : suffix = [] ∨ ∃ c rest, suffix = c :: rest ∧ (c = '.' ∨ c = '@')) :
    withoutSuffix (cs ++ suffix) = cs := by
  rw [withoutSuffix, List.takeWhile_append_of_pos fun c hc => by simp [hcs c hc]]
  rcases hsuffix with rfl | ⟨c, rest, rfl, hc⟩
  · simp
  · rw [List.takeWhile_cons_of_neg (by simp [beginsSuffix_iff.2 hc]), List.append_nil]

/-- The locale of a name is well-formed, and the name spells it. -/
theorem spells_of_normalize {raw locale : String} (h : normalize raw = some locale) :
    WellFormed locale ∧ Spells raw locale := by
  obtain ⟨suffix, hcut, hsuffix⟩ := suffix_withoutSuffix (Text.trim raw.toList)
  obtain ⟨left, right, htrim, hleft, hright⟩ :=
    Text.exists_eq_append_trim (withoutSuffix (Text.trim raw.toList))
  rw [normalize] at h
  generalize Text.trim (withoutSuffix (Text.trim raw.toList)) = written at h htrim
  split at h
  · next htag =>
    obtain rfl := Option.some.inj h
    rw [htrim] at hcut
    -- The name is trimmed already, so that nothing is trimmed off on the left once more.
    obtain rfl : left = [] := by
      cases left with
      | nil => rfl
      | cons c rest =>
        have hfirst := Text.not_isBlank_of_trim hcut
        rw [hleft c List.mem_cons_self] at hfirst
        cases hfirst
    refine ⟨isTag_iff.1 (by rwa [String.toList_ofList]), written, right, suffix, hcut, ?_, hright,
      hsuffix⟩
    rw [String.toList_ofList]
    exact written_underscored written
  · cases h

/-- A name that spells a well-formed locale has it as its locale. -/
theorem normalize_of_spells {raw locale : String} (hformed : WellFormed locale)
    (h : Spells raw locale) : normalize raw = some locale := by
  obtain ⟨written, blanks, suffix, htrim, hwritten, hblanks, hsuffix⟩ := h
  have hletters : ∀ c ∈ locale.toList, c = '_' ∨ c.isAlphanum = true := fun c =>
    hformed.underscore_or_isAlphanum
  have hplain := plain_of_written hletters hwritten
  have hbegins : ∀ c ∈ written ++ blanks, beginsSuffix c = false := by
    intro c hc
    rcases List.mem_append.1 hc with hc | hc
    · exact (hplain c hc).2
    · refine Bool.eq_false_iff.2 fun hbegins => ?_
      have hblank := hblanks c hc
      rcases beginsSuffix_iff.1 hbegins with rfl | rfl <;> cases hblank
  rw [normalize, htrim, withoutSuffix_append hbegins hsuffix,
    Text.trim_append (fun c hc => (hplain c hc).1) hblanks,
    underscored_of_written hletters hwritten, if_pos (isTag_iff.2 hformed), String.ofList_toList]

theorem normalize_eq_some_iff {raw locale : String} :
    normalize raw = some locale ↔ WellFormed locale ∧ Spells raw locale :=
  ⟨spells_of_normalize, fun h => normalize_of_spells h.1 h.2⟩

/-- A well-formed locale spells itself. -/
theorem WellFormed.spells {locale : String} (h : WellFormed locale) : Spells locale locale := by
  refine ⟨locale.toList, [], [], ?_, List.forall₂_same.2 fun _ _ => Or.inl rfl, nofun, Or.inl rfl⟩
  have hblank : ∀ c ∈ locale.toList, Text.isBlank c = false := by
    intro c hc
    rcases h.underscore_or_isAlphanum hc with rfl | halnum
    · rfl
    · exact isBlank_of_isAlphanum halnum
  have htrim : Text.trim (locale.toList ++ []) = locale.toList := Text.trim_append hblank nofun
  simpa using htrim

/-! ## The default locale -/

section

variable {raw override host : Option String} {locale : String}

theorem names_iff : Names raw locale ↔ raw.bind normalize = some locale := by
  rw [Option.bind_eq_some_iff]
  exact exists_congr fun text => and_congr_right fun _ => normalize_eq_some_iff.symm

theorem Names.wellFormed (h : Names raw locale) : WellFormed locale := by
  obtain ⟨text, -, hformed, -⟩ := h
  exact hformed

theorem bind_normalize_eq_none (h : ∀ l, ¬Names raw l) : raw.bind normalize = none :=
  Option.eq_none_iff_forall_ne_some.2 fun l hl => h l (names_iff.2 hl)

theorem resolveDefault_of_override (h : Names override locale) :
    resolveDefault override host = locale := by
  rw [resolveDefault, names_iff.1 h]
  rfl

theorem resolveDefault_of_host (hnone : ∀ l, ¬Names override l) (h : Names host locale) :
    resolveDefault override host = locale := by
  rw [resolveDefault, bind_normalize_eq_none hnone, names_iff.1 h]
  rfl

theorem resolveDefault_of_none (hnone : ∀ l, ¬Names override l) (hhost : ∀ l, ¬Names host l) :
    resolveDefault override host = "en" := by
  rw [resolveDefault, bind_normalize_eq_none hnone, bind_normalize_eq_none hhost]
  rfl

theorem wellFormed_english : WellFormed "en" :=
  isTag_iff.1 (by decide +kernel)

theorem wellFormed_resolveDefault (override host : Option String) :
    WellFormed (resolveDefault override host) := by
  by_cases hoverride : ∃ l, Names override l
  · obtain ⟨l, hl⟩ := hoverride
    rw [resolveDefault_of_override hl]
    exact hl.wellFormed
  · have hnone : ∀ l, ¬Names override l := not_exists.1 hoverride
    by_cases hhost : ∃ l, Names host l
    · obtain ⟨l, hl⟩ := hhost
      rw [resolveDefault_of_host hnone hl]
      exact hl.wellFormed
    · rw [resolveDefault_of_none hnone (not_exists.1 hhost)]
      exact wellFormed_english

end

/-- A raw name has a locale exactly if it spells a well-formed one, and then it has this one. A
locale so found is its own locale. The default locale is always well-formed: that of the variable if
its value spells one, else that of the host if that spells one, else English. -/
theorem normalize_exact :
    (∀ raw locale, normalize raw = some locale ↔ WellFormed locale ∧ Spells raw locale) ∧
    (∀ raw, normalize raw = none ↔ ∀ locale, ¬(WellFormed locale ∧ Spells raw locale)) ∧
    (∀ raw locale, normalize raw = some locale → normalize locale = some locale) ∧
    ∀ (environment : String → Option String) (host : Option String),
      let override := environment overrideVariable
      WellFormed (resolveDefault override host) ∧
      (∀ l, Names override l → resolveDefault override host = l) ∧
      ((∀ l, ¬Names override l) →
        (∀ l, Names host l → resolveDefault override host = l) ∧
        ((∀ l, ¬Names host l) → resolveDefault override host = "en")) := by
  refine ⟨fun raw locale => normalize_eq_some_iff, fun raw => ?_, fun raw locale h => ?_,
    fun environment host => ⟨wellFormed_resolveDefault _ host,
      fun l => resolveDefault_of_override, fun hnone =>
        ⟨fun l => resolveDefault_of_host hnone, resolveDefault_of_none hnone⟩⟩⟩
  · rw [Option.eq_none_iff_forall_ne_some]
    exact forall_congr' fun locale => not_congr normalize_eq_some_iff
  · have hformed := (spells_of_normalize h).1
    exact normalize_of_spells hformed hformed.spells

/-- The variable holds a name that stands for no locale, so the host decides. Its name has a hyphen,
a blank before the modifier, and wide blanks around it. -/
theorem normalize_of_serbian :
    let environment := fun name => if name = overrideVariable then some "C.UTF-8" else none
    let host := some "\u2003sr-RS_latin @euro \u3000"
    normalize "\u2003sr-RS_latin @euro \u3000" = some "sr_RS_latin" ∧
    normalize "sr_RS_latin" = some "sr_RS_latin" ∧
    (∀ l, ¬Names (environment overrideVariable) l) ∧ Names host "sr_RS_latin" ∧
    resolveDefault (environment overrideVariable) host = "sr_RS_latin" := by
  intro environment host
  obtain ⟨hexact, -, hagain, hdefault⟩ := normalize_exact
  have hserbian : normalize "\u2003sr-RS_latin @euro \u3000" = some "sr_RS_latin" := by
    decide +kernel
  have hplaceholder : normalize "C.UTF-8" = none := by decide +kernel
  have hvalue : environment overrideVariable = some "C.UTF-8" := if_pos rfl
  have hnone : ∀ l, ¬Names (environment overrideVariable) l := by
    rintro l ⟨text, htext, hspells⟩
    obtain rfl := Option.some.inj (hvalue.symm.trans htext)
    have hlocale := (hexact _ l).2 hspells
    rw [hplaceholder] at hlocale
    cases hlocale
  have hhost : Names host "sr_RS_latin" := ⟨_, rfl, (hexact _ _).1 hserbian⟩
  exact ⟨hserbian, hagain _ _ hserbian, hnone, hhost,
    ((hdefault environment host).2.2 hnone).1 _ hhost⟩

end Locale

end Parlance

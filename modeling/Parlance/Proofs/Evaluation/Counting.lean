import Mathlib
import Parlance.Proofs.Evaluation.Plural
import Parlance.Proofs.Number.Fixed
import Parlance.Proofs.Number.Tag

/-!
# Plural texts by the tag

Where plural texts are found by the tag of the number, the message with this tag is taken if the
catalog has it, else the message with the tag other. What the catalog has is asked along the chain
along which the message is then looked up. So a plural text is missing only if the one with the tag
other is.

Results:
1. `root_of_wordAt`: a missing text that a key leads to is that of the key itself.
2. `pluralText_of_tagged`, `pluralText_of_untagged`: which plural text is taken.
3. `root_of_numberValue`: which texts a number may miss.
4. `by_tag_lookup`: all of this at every moment of every translation.
-/

namespace Parlance

/-! ## Keys -/

namespace Factory

theorem getLast?_pluralKey (base : String) (tag : PluralTag) :
    (pluralKey base tag).toList.getLast? = tag.text.toList.getLast? := by
  rw [pluralKey, String.toList_append, List.getLast?_append]
  cases tag <;> rfl

/-- The last letters tell the tag other from every other tag, and all tags from the formats. -/
theorem pluralKey_ne {base base' : String} {tag : PluralTag} (h : tag ≠ .other) :
    pluralKey base' .other ≠ pluralKey base tag := by
  intro heq
  have hlast := congrArg (fun key : String => key.toList.getLast?) heq
  simp only [getLast?_pluralKey] at hlast
  cases tag with
  | other => exact h rfl
  | _ => revert hlast; decide

theorem formatKey_ne_pluralKey (n : Number) (base : String) (tag : PluralTag) :
    formatKey n ≠ pluralKey base tag := by
  intro heq
  have hformat : (formatKey n).toList.getLast? = some 't' := by
    cases n with
    | integer _ => exact (by decide : integerFormatKey.toList.getLast? = some 't')
    | float _ => exact (by decide : floatFormatKey.toList.getLast? = some 't')
  rw [heq, getLast?_pluralKey] at hformat
  cases tag <;> revert hformat <;> decide

end Factory

/-! ## Missing texts -/

namespace Evaluation

section

variable {t : Translator} {p : Progress} {locale key : String}

/-- A key gives what the evaluation gives, or it is refused for the stack. -/
theorem wordAt_cases (t : Translator) (p : Progress) (locale key : String) :
    t.wordAt p locale key = nestedText (Request.ofKey key) locale
        (evaluate t.catalog .byTag (Request.ofKey key) locale) ∨
      ∃ e, t.wordAt p locale key = .error e ∧ e.isMissingText = false := by
  let room := t.setting.maxDepth - p.stack.length
  obtain ⟨x, hmeets, hx⟩ := exists_meets_of_bare (r := Request.ofKey key) t.setting p.stack locale
    (by simp) .byTag room
  have hnested : Discipline.any.Meets p.stack
      (Setting.translateNested (t.setting.translateWithin room) (Request.ofKey key) locale)
      (· = nestedText (Request.ofKey key) locale x) :=
    meets_nestedText hmeets
  have hword : t.wordAt p locale key = nestedText (Request.ofKey key) locale x :=
    (hnested p rfl (Discipline.any_holds p)).2.2
  rw [hword]
  rcases hx with rfl | ⟨e, rfl, he⟩
  · exact Or.inl rfl
  · exact Or.inr ⟨_, rfl, he⟩

/-- The only text that may be missing where a key is translated is that of the key. -/
theorem root_of_wordAt (hmissing : t.catalog.missing = failFast) {e : RenderError}
    (h : t.wordAt p locale key = .error e) (he : e.isMissingText = true) :
    t.catalog.contains key locale = false ∧
      ∃ searched suggestions, e.root = .missingText key locale searched suggestions := by
  rcases wordAt_cases t p locale key with hword | ⟨e', herror, he'⟩
  · rw [hword, nestedText, mapError_eq_error] at h
    obtain ⟨cause, hcause, rfl⟩ := h
    cases hcontains : t.catalog.contains key locale with
    | true =>
      have hfault := onError_evaluate_of_contains hcontains cause hcause
      cases he.symm.trans hfault.isMissingText_eq
    | false =>
      rw [evaluate, requestText, lookup_of_not_contains hcontains, hmissing] at hcause
      obtain rfl := Except.error.inj hcause
      exact ⟨rfl, _, _, rfl⟩
  · obtain rfl := Except.error.inj (h.symm.trans herror)
    cases he.symm.trans he'

end

/-! ## Plural texts -/

section

variable {word : String → Except RenderError String} {has : String → Bool} {base : String}
  {n : Number}

theorem pluralText_of_tagged {tag : PluralTag} {k : ℚ} (htag : tag.value? = some k)
    (hn : n.value? = some k) (hhas : has (Factory.pluralKey base tag) = true) :
    pluralText word has .byTag base n.pluralTag = word (Factory.pluralKey base tag) := by
  rw [(Number.pluralTag_eq_iff htag).2 hn, pluralText]
  exact congrArg word (if_pos hhas)

theorem pluralText_of_untagged (h : ∀ tag k, tag.value? = some k → n.value? = some k →
    has (Factory.pluralKey base tag) = false) :
    pluralText word has .byTag base n.pluralTag = word (Factory.pluralKey base .other) := by
  rw [pluralText]
  by_cases htag : n.pluralTag = .other
  · rw [htag]
    exact congrArg word (ite_self _)
  · obtain ⟨k, hk⟩ := PluralTag.exists_value htag
    have hhas := h _ k hk ((Number.pluralTag_eq_iff hk).1 rfl)
    exact congrArg word (if_neg (by simp [hhas]))

/-- The plural text is that of a message in the catalog, unless it is that with the tag other. -/
theorem pluralText_byTag (word : String → Except RenderError String) (has : String → Bool)
    (base : String) (tag : PluralTag) :
    ∃ key, pluralText word has .byTag base tag = word key ∧
      (has key = true ∨ key = Factory.pluralKey base .other) := by
  refine ⟨_, rfl, ?_⟩
  split
  · next hhas => exact Or.inl hhas
  · exact Or.inr rfl

end

/-- Of the texts that a number needs, only its format and the text with the tag other may be
missing. -/
theorem root_of_numberValue {t : Translator} {p : Progress} {locale base : String}
    {options : Options} {n : Number} (hmissing : t.catalog.missing = failFast)
    (hcheck : options.check "number" [Factory.pluralOption] = .ok ())
    (hplural : options.get? Factory.pluralOption = some (.string base)) :
    OnError (fun e => e.isMissingText = true →
        ∃ key searched suggestions, e.root = .missingText key locale searched suggestions ∧
          (key = Factory.formatKey n ∨ key = Factory.pluralKey base .other))
      (numberValue (t.wordAt p locale) (t.catalog.contains · locale) .byTag n options) := by
  rw [numberValue_eq hcheck hplural]
  refine .bind (.bind ?_ fun spec => ?_) fun text => .bind ?_ fun counted => .ok _
  · intro e he hmissingText
    obtain ⟨-, searched, suggestions, hroot⟩ := root_of_wordAt hmissing he hmissingText
    exact ⟨_, searched, suggestions, hroot, Or.inl rfl⟩
  · intro e he hmissingText
    cases hmissingText.symm.trans (Factory.isFault_of_applyFormat he).isMissingText_eq
  · intro e he hmissingText
    obtain ⟨key, hkey, htagged⟩ := pluralText_byTag (t.wordAt p locale)
      (t.catalog.contains · locale) base n.pluralTag
    obtain ⟨hnot, searched, suggestions, hroot⟩ :=
      root_of_wordAt hmissing (hkey.symm.trans he) hmissingText
    refine ⟨key, searched, suggestions, hroot, htagged.imp_left fun hhas => ?_⟩
    cases hhas.symm.trans hnot

end Evaluation

/-! ## Numbers at every moment -/

/-- Take a translator, whatever its factories, and any moment of a translation. Take a number that
is handled by the factory for numbers, which looks for plural texts by the tag, with a base key as
its only option. What is written is the translation of the number's format, applied to the number.
* If nothing can be written, the number fails with this error.
* Else what is written is followed by a blank and a plural text: by the translation of the key with
  the tag zero, one or two, if the number has this value and the key is in the catalog for the
  locale, and by the translation of the key with the tag other in every other case. If the
  translation of the key that is taken fails, so does the number.
* Where missing texts are errors, only the format or the text with the tag other may be missing.
* The script for the number asks for the format first. It ends there if nothing can be written, so
  that nothing is asked for a plural text. -/
theorem by_tag_lookup {t : Translator} {p : Progress} {base : String} {options : Options}
    {v : Value} {n : Number} (locale : String) (hnumber : v.number? = some n)
    (hfactory : (p.registry.factoryFor v).1 = .ok (Factory.number .byTag))
    (hcheck : options.check "number" [Factory.pluralOption] = .ok ())
    (hplural : options.get? Factory.pluralOption = some (.string base)) :
    let word := t.wordAt p locale
    let shown := t.textAt p v locale options
    let written := do
      let spec ← word (Factory.formatKey n)
      Factory.applyFormat spec n
    (∀ e, written = .error e → shown = .error e) ∧
    (∀ text, written = .ok text →
      (∀ tag k, tag.value? = some k → n.value? = some k →
        t.catalog.contains (Factory.pluralKey base tag) locale = true →
        shown = (word (Factory.pluralKey base tag)).map (text ++ " " ++ ·)) ∧
      ((∀ tag k, tag.value? = some k → n.value? = some k →
          t.catalog.contains (Factory.pluralKey base tag) locale = false) →
        shown = (word (Factory.pluralKey base .other)).map (text ++ " " ++ ·))) ∧
    (t.catalog.missing = failFast → ∀ e, shown = .error e → e.isMissingText = true →
      ∃ key searched suggestions, e.root = .missingText key locale searched suggestions ∧
        (key = Factory.formatKey n ∨ key = Factory.pluralKey base .other) ∧
        ∀ tag, tag ≠ .other → key ≠ Factory.pluralKey base tag) ∧
    ∃ next, Factory.numberFormatter .byTag locale (some base) v =
        .translate (Request.ofKey (Factory.formatKey n)) locale next ∧
      ∀ x e, (x >>= fun spec => Factory.applyFormat spec n) = .error e → next x = .fail e := by
  intro word shown written
  let has := (t.catalog.contains · locale)
  have hshown : shown = Evaluation.numberValue word has .byTag n options :=
    Evaluation.textAt_eq_numberValue hnumber hfactory locale options
  have hparts : shown = do
      let text ← written
      let counted ← Evaluation.pluralText word has .byTag base n.pluralTag
      return text ++ " " ++ counted :=
    hshown.trans (Evaluation.numberValue_eq hcheck hplural)
  refine ⟨fun e he => ?_, fun text htext => ⟨fun tag k htag hn hhas => ?_, fun hnone => ?_⟩,
    fun hmissing e he hmissingText => ?_, ?_⟩
  · rw [hparts, he]
    rfl
  · rw [hparts, htext, Evaluation.pluralText_of_tagged htag hn hhas]
    exact bind_pure_comp (m := Except RenderError) _ _
  · rw [hparts, htext, Evaluation.pluralText_of_untagged hnone]
    exact bind_pure_comp (m := Except RenderError) _ _
  · obtain ⟨key, searched, suggestions, hroot, hkey⟩ :=
      Evaluation.root_of_numberValue hmissing hcheck hplural e (hshown.symm.trans he) hmissingText
    refine ⟨key, searched, suggestions, hroot, hkey, fun tag htag => ?_⟩
    rcases hkey with rfl | rfl
    · exact Factory.formatKey_ne_pluralKey n base tag
    · exact Factory.pluralKey_ne htag
  · unfold Factory.numberFormatter
    rw [hnumber]
    refine ⟨_, rfl, fun x e hfailed => ?_⟩
    cases x with
    | error cause =>
      obtain rfl := Except.error.inj hfailed
      rfl
    | ok spec =>
      have hspec : Factory.applyFormat spec n = .error e := hfailed
      dsimp only [Script.ofExcept, Script.bind]
      rw [hspec]
      rfl

/-! ## A negative zero -/

/-- A translator that looks for the tag of the number, in German and then in English. -/
def tallying : Translator where
  setting :=
    { catalog :=
        ⟨((Store.empty.insert "de" "tally" ⟨[.argument (.name "n") carOptions]⟩).insert
          "en" "cars.zero" (Compiled.ofText "no cars")).insert
          "de" "number.float" (Compiled.ofText "%d"),
          fun l => [l, "en"], failFast⟩
      defaultLocale := "en"
      maxDepth := 2 }
  registry := Registry.builtins .byTag

/-- No cars, as a negative zero. -/
def negativeZero : Value :=
  .float (.finite (.zero true))

/-- The moment at which the argument of a message is formatted. -/
def tallied : Progress :=
  ⟨Registry.builtins .byTag, [⟨(Request.ofKey "tally").bind "n" negativeZero, "de"⟩]⟩

theorem applyFormat_negativeZero :
    Factory.applyFormat "%d" (.float (.finite (.zero true))) = .ok "0" := by
  have hwhole : (Finite.zero true).wholePart = 0 := by
    rw [Finite.wholePart, Finite.units_zero, Nat.zero_div]
  rw [Factory.applyFormat, parse_integer]
  simp [NumberSpec.apply, NumberSpec.applyPieces, Conversion.apply, Conversion.body,
    Conversion.truncated, Conversion.sign, Conversion.pad, hwhole]

theorem applyFormat_infinite :
    Factory.applyFormat "%d" (.float (.infinite false)) =
      .error (.numberSpec ⟨"%d", 0, .notAnInteger (.float (.infinite false))⟩) := by
  rw [Factory.applyFormat, parse_integer]
  rfl

/-- A negative zero is counted as zero, by a message of the second locale. An infinity is refused by
the format, whatever plural texts there are. -/
theorem by_tag_of_negativeZero :
    tallied ∈ tallying.moments ((Request.ofKey "tally").bind "n" negativeZero) "de" ∧
    tallying.textAt tallied negativeZero "de" carOptions = .ok "0 no cars" ∧
    ∃ e, tallying.textAt tallied (.float (.infinite false)) "de" carOptions =
      .error (.numberSpec e) := by
  have hp : tallied ∈ tallying.moments ((Request.ofKey "tally").bind "n" negativeZero) "de" :=
    List.mem_of_getElem? (i := 1) rfl
  have hcheck : carOptions.check "number" [Factory.pluralOption] = .ok () := by cbv
  have hplural : carOptions.get? Factory.pluralOption = some (.string "cars") := by cbv
  have hspec : tallying.wordAt tallied "de" floatFormatKey = .ok "%d" := by cbv
  have htagged : tallying.catalog.contains (Factory.pluralKey "cars" .zero) "de" = true := by cbv
  have hzero : tallying.wordAt tallied "de" (Factory.pluralKey "cars" .zero) =
      .ok "no cars" := by cbv
  have hvalue : Number.value? (.float (.finite (.zero true))) = some 0 :=
    congrArg some (Finite.value_zero true)
  have hlookup := fun x => by_tag_lookup (t := tallying) (p := tallied) (v := .float x) "de"
    rfl rfl hcheck hplural
  refine ⟨hp, ?_, ?_⟩
  · have hcounted := ((hlookup (.finite (.zero true))).2.1 "0" ?_).1 .zero 0 rfl hvalue htagged
    · rw [hzero] at hcounted
      exact hcounted
    · rw [Factory.formatKey, hspec]
      exact applyFormat_negativeZero
  · have hrefused := (hlookup (.infinite false)).1
    rw [Factory.formatKey, hspec] at hrefused
    exact ⟨_, hrefused _ applyFormat_infinite⟩

end Parlance

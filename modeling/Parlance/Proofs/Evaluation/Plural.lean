import Mathlib
import Parlance.Proofs.Catalog.Contents
import Parlance.Proofs.Evaluation.Agreement
import Parlance.Proofs.Evaluation.Related
import Parlance.Proofs.Rendering.CallStack

/-!
# Plural texts with the tag one first

The format and the plural text of a number are messages without arguments. Nothing is nested in such
a message, and it equals none that is rendered around it, since all of these take arguments. So it
gives the same text wherever it is asked for, as a message of its own or while any other one is
being rendered, whatever the other factories do.

Results:
1. `meets_evaluate_of_bare`: a message without arguments gives what the evaluation gives.
2. `arguments_of_moments`: at every moment of a translation all messages that are being rendered
   take arguments, but for the innermost.
3. `textAt_eq_numberValue`: the text of a number is what the evaluation gives with the words of the
   moment.
4. `wordAt_eq_wordIn`, `textAt_number`: while an argument is being formatted, these words are
   translations of their own.
5. `one_first_lookup`: which plural text a number has. The message with the tag other is tried only
   if a missing text is an error.
-/

namespace Parlance

/-! ## Definitions -/

namespace Translator

/-- The text of a key inside another message: its translation, or the failure of this, wrapped. -/
def wordIn (t : Translator) (locale key : String) : Except RenderError String :=
  (t.translateTo (Request.ofKey key) locale).1.mapError fun e => .nested e.request e.locale e.cause

/-- The text of a value at a moment of a translation. The messages that it needs have the room that
the depth allowed leaves above the stack of that moment. -/
def textAt (t : Translator) (p : Progress) (v : Value) (locale : String) (options : Options) :
    Except RenderError String :=
  let room := t.setting.maxDepth - p.stack.length
  ((t.setting.format (Setting.translateNested (t.setting.translateWithin room)) v locale
    options).run p).1

/-- The text of a key at a moment of a translation, on the stack of that moment. -/
def wordAt (t : Translator) (p : Progress) (locale key : String) : Except RenderError String :=
  let room := t.setting.maxDepth - p.stack.length
  ((Setting.translateNested (t.setting.translateWithin room) (Request.ofKey key) locale).run p).1

end Translator

/-- What the messages without arguments evaluate to inside another message. They are those lighter
than two, and no value is so light. -/
def Evaluation.bare (c : Catalog) (lookup : Factory.PluralLookup) : Evaluation.Inner 2 :=
  fun m _ around => nestedText m (Setting.targetLocale m around)
    (evaluate c lookup m (Setting.targetLocale m around))

/-- What the messages without arguments give at a moment of a translation. -/
def Evaluation.bareAt (t : Translator) (p : Progress) : Evaluation.Inner 2 :=
  fun m _ around =>
    let room := t.setting.maxDepth - p.stack.length
    ((Setting.translateNested (t.setting.translateWithin room) m around).run p).1

/-- All messages on a stack take arguments, but for the innermost. -/
def OuterTake (st : List Frame) : Prop :=
  ∀ f ∈ st.tail, f.request.arguments ≠ []

/-- The factories may be any. On the stack all messages but the innermost take arguments. -/
def Discipline.taking : Discipline where
  registry _ := True
  stack := OuterTake

/-! ## Messages without arguments -/

namespace Evaluation

section

variable {d : Discipline} {lookup : Factory.PluralLookup} {s : Setting} {st : List Frame}
  {r : Message} {l : String}

theorem meets_renderRequest_of_bare (hr : r.weight < 2) (nested : Message → String → Run String)
    (lookup : Factory.PluralLookup) :
    d.Meets st (s.renderRequest nested r l) (· = evaluate s.catalog lookup r l) := by
  rw [evaluate]
  refine meets_requestText fun v hv => ?_
  have hle := v.two_le_weight
  omega

/-- Among messages with arguments, a message without arguments gives what the evaluation gives. -/
theorem meets_evaluate_of_bare (hr : r.weight < 2)
    (hst : ∀ f ∈ st, f.request.arguments ≠ []) (room : Nat) :
    Discipline.any.Meets st (s.translateWithin (room + 1) r l)
      (· = evaluate s.catalog lookup r l) := by
  have hheavier : ∀ f ∈ st, r.weight < f.request.weight := fun f hf => by
    have hweight := Request.weight_lt_two_iff.not.2 (hst f hf)
    omega
  refine Discipline.meets_translateWithin_succ (fun hany => ?_) fun _ _ => ⟨trivial, ?_⟩
  · rw [any_same_eq_false hheavier] at hany
    cases hany
  · exact meets_renderRequest_of_bare hr _ lookup

/-- On any stack and with any room, a message without arguments has one outcome. It is what the
evaluation gives, or the message is refused for the stack. -/
theorem exists_meets_of_bare (s : Setting) (st : List Frame) (l : String) (hr : r.weight < 2)
    (lookup : Factory.PluralLookup) (room : Nat) :
    ∃ x, Discipline.any.Meets st (s.translateWithin room r l) (· = x) ∧
      (x = evaluate s.catalog lookup r l ∨ ∃ e, x = .error e ∧ e.isMissingText = false) := by
  cases room with
  | zero => exact ⟨_, Discipline.meets_fail rfl, Or.inr ⟨_, rfl, rfl⟩⟩
  | succ room =>
    cases hany : st.any (Frame.same ⟨r, l⟩) with
    | true =>
      refine ⟨_, Discipline.meets_translateWithin_succ (fun _ => rfl) fun hfresh => ?_,
        Or.inr ⟨_, rfl, rfl⟩⟩
      cases hany.symm.trans hfresh
    | false =>
      refine ⟨_, Discipline.meets_translateWithin_succ (fun hagain => ?_) fun _ _ =>
        ⟨trivial, meets_renderRequest_of_bare hr _ lookup⟩, Or.inl rfl⟩
      cases hany.symm.trans hagain

section

variable {t : Translator} {p : Progress}

/-- Inside another message, a message without arguments has the same outcome at all moments with the
same stack. -/
theorem meets_bareAt (hr : r.weight < 2) (around : String) :
    Discipline.any.Meets p.stack (Setting.translateNested
      (t.setting.translateWithin (t.setting.maxDepth - p.stack.length)) r around)
      (· = bareAt t p r hr around) := by
  obtain ⟨x, hmeets, -⟩ := exists_meets_of_bare t.setting p.stack (Setting.targetLocale r around) hr
    .byTag (t.setting.maxDepth - p.stack.length)
  have hnested := meets_nestedText hmeets
  rw [← (hnested p rfl (Discipline.any_holds p)).2.2] at hnested
  exact hnested

/-- A script that needs nothing but messages without arguments gets what they give at a moment with
its stack. -/
theorem meets_script_of_bare {bound : Nat} {script : Script bound String}
    {post : Except RenderError String → Prop}
    {part : (v : Value) → v.size < bound → String → Options → Run String}
    (h : script.Ensures ((bareAt t p).answers lookup
      ⟨t.catalog, t.setting.defaultLocale, p.stack.reverse⟩) post) :
    Discipline.any.Meets p.stack (script.run t.setting.view (Setting.translateNested
      (t.setting.translateWithin (t.setting.maxDepth - p.stack.length))) part) post := by
  refine Discipline.meets_script (fun q hq => Discipline.view_of_stack t.setting hq) ?_ ?_ script h
  · exact fun m around hm => (meets_bareAt hm around).mono fun x hx _ => hx
  · exact fun v _ _ _ hv => absurd hv (Nat.not_lt.2 v.two_le_weight)

end

/-- A translation of a message without arguments gives what the evaluation gives. -/
theorem wordIn_eq {t : Translator} (hdepth : 0 < t.setting.maxDepth) (locale : String) :
    t.wordIn locale = word (bare t.catalog lookup) (by decide) locale := by
  funext key
  obtain ⟨room, hroom⟩ := Nat.exists_eq_add_one.2 hdepth
  have hmeets : Discipline.any.Meets []
      (t.setting.translateWithin t.setting.maxDepth (Request.ofKey key) locale)
      (· = evaluate t.catalog lookup (Request.ofKey key) locale) := by
    rw [hroom]
    exact meets_evaluate_of_bare (by simp) (List.forall_mem_nil _) room
  obtain ⟨_, rfl, houtcome, -⟩ := Discipline.translateTo_of_meets hmeets
    (Discipline.any_holds ⟨t.registry, []⟩).1 trivial
  rw [Translator.wordIn, houtcome]
  show _ = nestedText (Request.ofKey key) locale (evaluate t.catalog lookup _ locale)
  cases evaluate t.catalog lookup (Request.ofKey key) locale <;> rfl

end

end Evaluation

/-! ## The stack -/

/-- A message is rendered inside another one only if this takes arguments. -/
theorem Discipline.meets_taking (s : Setting) (room : Nat) (st : List Frame) (r : Message)
    (l : String) (hst : ∀ f ∈ st, f.request.arguments ≠ []) :
    taking.Meets st (s.translateWithin room r l) fun _ => True := by
  induction room generalizing st r l with
  | zero => exact meets_fail trivial
  | succ room ih =>
    refine meets_translateWithin_succ (fun _ => trivial) fun _ _ => ⟨hst, ?_⟩
    by_cases hr : r.arguments = []
    · have hbare := Request.weight_lt_two_iff.2 hr
      exact (Evaluation.meets_renderRequest_of_bare hbare _ .oneFirst).mono fun _ _ => trivial
    · have hgrown : ∀ f ∈ (⟨r, l⟩ :: st : List Frame), f.request.arguments ≠ [] :=
        List.forall_mem_cons.2 ⟨hr, hst⟩
      have hnested : ∀ m around, taking.Meets (⟨r, l⟩ :: st)
          (Setting.translateNested (s.translateWithin room) m around) fun _ => True :=
        fun m around => meets_translateNested (ih _ m _ hgrown) (fun _ _ => trivial)
          fun _ _ => trivial
      have hformat : ∀ v o, taking.Meets (⟨r, l⟩ :: st)
          (s.format (Setting.translateNested (s.translateWithin room)) v l o) fun _ => True := by
        intro v o
        refine meets_format (a := ⟨_, fun _ => True, fun _ _ _ => True, fun _ => True,
          fun _ _ _ _ => True⟩) rfl (fun m around _ => hnested m around) ?_ v l o trivial
        intro w l' o' registry _ _
        exact ⟨trivial, made_of_forall (fun _ => trivial) (fun _ => trivial) (fun _ => trivial) _⟩
      have hrendered : taking.Meets (⟨r, l⟩ :: st)
          (s.renderRequest (Setting.translateNested (s.translateWithin room)) r l)
          (OnError fun _ => True) :=
        meets_renderRequest (fun _ _ => trivial) (fun _ _ => trivial) fun v o =>
          (hformat v o).mono fun _ _ _ _ => trivial
      exact hrendered.mono fun _ _ => trivial

/-- At every moment of a translation, all messages that are being rendered take arguments, but for
the innermost. -/
theorem arguments_of_moments {t : Translator} {r : Message} {l : String} {p : Progress}
    (hp : p ∈ t.moments r l) : ∀ f ∈ p.stack.tail, f.request.arguments ≠ [] := by
  have hmeets := Discipline.meets_taking t.setting t.setting.maxDepth [] r l (by simp)
  have hempty : OuterTake [] := by simp [OuterTake]
  exact ((hmeets ⟨t.registry, []⟩ rfl ⟨trivial, hempty⟩).1 p hp).2

/-! ## Numbers -/

namespace Evaluation

/-- A number that is handled by the factory for numbers gives what the evaluation gives, with the
words of the moment. -/
theorem textAt_eq_numberValue {t : Translator} {p : Progress} {lookup : Factory.PluralLookup}
    {v : Value} {n : Number} (hn : v.number? = some n)
    (hfactory : (p.registry.factoryFor v).1 = .ok (Factory.number lookup)) (locale : String)
    (options : Options) :
    t.textAt p v locale options =
      numberValue (t.wordAt p locale) (t.catalog.contains · locale) lookup n options := by
  have hmade : Formatter.Made ((bareAt t p).answers lookup
      ⟨t.catalog, t.setting.defaultLocale, p.stack.reverse⟩) v
      (· = numberValue (t.wordAt p locale) (t.catalog.contains · locale) lookup n options)
      ((Factory.number lookup).create locale options) :=
    Formatter.made_bind fun _ => Formatter.made_bind fun plural =>
      ensures_numberFormatter hn (by decide) plural
  have hformatter : (Run.formatterFor v locale options).run p =
      ((Factory.number lookup).create locale options,
        { p with registry := (p.registry.factoryFor v).2 }) := by
    rw [Run.formatterFor, Run.run_step, Registry.formatterFor_eq, hfactory]
    rfl
  rw [Translator.textAt, Setting.format]
  cases hcreate : (Factory.number lookup).create locale options with
  | error e =>
    rw [hcreate] at hmade hformatter
    rw [Run.run_bind_of_error hformatter]
    exact hmade
  | ok formatter =>
    rw [hcreate] at hmade hformatter
    rw [Run.run_bind_of_ok hformatter]
    exact (meets_script_of_bare hmade { p with registry := (p.registry.factoryFor v).2 } rfl
      (Discipline.any_holds _)).2.2

/-- While an argument is being formatted and there is room for one more message, a key gives what it
is translated to. -/
theorem wordAt_eq_wordIn {t : Translator} {p : Progress}
    (hp : ∀ f ∈ p.stack, f.request.arguments ≠ [])
    (hroom : p.stack.length < t.setting.maxDepth) (locale : String) :
    t.wordAt p locale = t.wordIn locale := by
  obtain ⟨room, hleft⟩ : ∃ room, t.setting.maxDepth - p.stack.length = room + 1 :=
    ⟨t.setting.maxDepth - p.stack.length - 1, by omega⟩
  have hword : t.wordIn locale = word (bare t.catalog .byTag) (by decide) locale :=
    wordIn_eq (Nat.zero_lt_of_lt hroom) locale
  rw [hword]
  funext key
  have hmeets : Discipline.any.Meets p.stack
      (Setting.translateNested (t.setting.translateWithin (room + 1)) (Request.ofKey key) locale)
      (· = nestedText (Request.ofKey key) locale
        (evaluate t.catalog .byTag (Request.ofKey key) locale)) :=
    meets_nestedText (meets_evaluate_of_bare (by simp) hp room)
  rw [Translator.wordAt, hleft]
  exact (hmeets p rfl (Discipline.any_holds p)).2.2

/-- While an argument is being formatted and there is room for one more message, a number that is
handled by the factory for numbers gives what the evaluation gives. -/
theorem textAt_number {t : Translator} {p : Progress} {lookup : Factory.PluralLookup} {v : Value}
    {n : Number} (hp : ∀ f ∈ p.stack, f.request.arguments ≠ [])
    (hroom : p.stack.length < t.setting.maxDepth) (hn : v.number? = some n)
    (hfactory : (p.registry.factoryFor v).1 = .ok (Factory.number lookup)) (locale : String)
    (options : Options) :
    t.textAt p v locale options =
      numberValue (t.wordIn locale) (t.catalog.contains · locale) lookup n options := by
  rw [textAt_eq_numberValue hn hfactory, wordAt_eq_wordIn hp hroom]

section

variable {c : Catalog} {lookup : Factory.PluralLookup} {key locale : String}

/-- A message that is found fails without arguments only with a fault of its own. -/
theorem onError_evaluate_of_contains (h : c.contains key locale = true) :
    OnError RenderError.IsFault (evaluate c lookup (Request.ofKey key) locale) := by
  obtain ⟨compiled, hfound⟩ := Option.isSome_iff_exists.1 h
  have hlookup : failing RenderError.IsFault Compiled
      (c.lookup (Request.ofKey key) locale) (c.lookup (Request.ofKey key) locale) := by
    rw [Catalog.lookup_of_some hfound]
    exact .ok compiled
  have hfailing : failing RenderError.IsFault String
      (evaluate c lookup (Request.ofKey key) locale)
      (evaluate c lookup (Request.ofKey key) locale) := by
    rw [evaluate]
    exact keyText_related (composes_failing (fun _ => id) lookup) hlookup fun _ => rfl
  exact hfailing

theorem lookup_of_not_contains (h : c.contains key locale = false) :
    c.lookup (Request.ofKey key) locale =
      c.missing ⟨Request.ofKey key, locale, c.chain locale, c.store⟩ :=
  Catalog.lookup_of_none (Option.not_isSome_iff_eq_none.1 (Bool.eq_false_iff.1 h))

theorem evaluate_of_failFast (h : c.contains key locale = false) (hmissing : c.missing = failFast) :
    ∃ e, evaluate c lookup (Request.ofKey key) locale = .error e ∧ e.isMissingText = true := by
  rw [evaluate, requestText, lookup_of_not_contains h, hmissing]
  exact ⟨_, rfl, rfl⟩

theorem evaluate_of_substitute (h : c.contains key locale = false)
    (hmissing : c.missing = substitute) :
    evaluate c lookup (Request.ofKey key) locale =
      .ok (Request.ofKey key : Message).description := by
  rw [evaluate, requestText, lookup_of_not_contains h, hmissing]
  simp [substitute, Compiled.ofText, fragmentText, bind, Except.bind, pure, Except.pure]

end

/-! ## One first -/

section

variable {word : String → Except RenderError String} {has : String → Bool} {base : String}
  {tag : PluralTag}

/-- The text with the tag one is taken, unless it fails for a missing text. -/
theorem pluralText_of_one
    (h : OnError (fun e => e.isMissingText = false) (word (Factory.pluralKey base .one))) :
    pluralText word has .oneFirst base tag = word (Factory.pluralKey base .one) := by
  rw [pluralText]
  cases hone : word (Factory.pluralKey base .one) with
  | ok text => rfl
  | error e =>
    have hfound := h e hone
    dsimp only
    rw [if_neg (by simp [hfound])]

theorem pluralText_of_missing {e : RenderError}
    (hone : word (Factory.pluralKey base .one) = .error e) (he : e.isMissingText = true)
    (htag : tag ≠ .other) :
    pluralText word has .oneFirst base tag = word (Factory.pluralKey base .other) := by
  rw [pluralText, hone]
  dsimp only
  rw [if_pos ⟨he, htag⟩]

/-- The plural text stands behind the number in its format. -/
theorem numberValue_eq {lookup : Factory.PluralLookup} {n : Number} {options : Options}
    (hcheck : options.check "number" [Factory.pluralOption] = .ok ())
    (hplural : options.get? Factory.pluralOption = some (.string base)) :
    numberValue word has lookup n options = do
      let text ← numberText word n
      let counted ← pluralText word has lookup base n.pluralTag
      return text ++ " " ++ counted := by
  have hoption : options.text? "number" Factory.pluralOption = .ok (some base) := by
    rw [Options.text?, hplural]
  rw [numberValue, hcheck, hoption]
  rfl

theorem numberValue_of_plural {lookup : Factory.PluralLookup} {n : Number} {spec text : String}
    {options : Options} (hcheck : options.check "number" [Factory.pluralOption] = .ok ())
    (hplural : options.get? Factory.pluralOption = some (.string base))
    (hspec : word (Factory.formatKey n) = .ok spec)
    (htext : Factory.applyFormat spec n = .ok text) :
    numberValue word has lookup n options =
      (pluralText word has lookup base n.pluralTag).map fun counted =>
        text ++ " " ++ counted := by
  have hnumber : numberText word n = .ok text := by
    rw [numberText, hspec]
    exact htext
  rw [numberValue_eq hcheck hplural, hnumber]
  show (pluralText word has lookup base n.pluralTag >>= fun counted =>
    pure (text ++ " " ++ counted)) = _
  cases pluralText word has lookup base n.pluralTag <;> rfl

end

end Evaluation

/-- Take any moment of any translation at which an argument is being formatted and the depth allowed
leaves room for one more message, whatever the factories are. Take a number that is handled by the
factory for numbers, which looks for the tag one first, with a base key as its only option and with
a format that applies. Behind the number stands:
* the translation of the key with the tag one, if this is in the catalog for the locale;
* else, if a missing text is an error and the tag of the number is not the tag other, the
  translation of the key with the tag other;
* else, if a missing text is substituted, the description of the request for the key with the tag
  one. The key with the tag other is not tried, whether it is in the catalog or not. -/
theorem one_first_lookup {t : Translator} {r₀ : Message} {l₀ : String} {p : Progress}
    {locale base : String} {options : Options} {v : Value} {n : Number} {spec text : String}
    (hp : p ∈ t.moments r₀ l₀) (harguments : ∀ f ∈ p.stack.head?, f.request.arguments ≠ [])
    (hroom : p.stack.length < t.setting.maxDepth) (hnumber : v.number? = some n)
    (hfactory : (p.registry.factoryFor v).1 = .ok (Factory.number .oneFirst))
    (hcheck : options.check "number" [Factory.pluralOption] = .ok ())
    (hplural : options.get? Factory.pluralOption = some (.string base))
    (hspec : (t.translateTo (Request.ofKey (Factory.formatKey n)) locale).1 = .ok spec)
    (htext : Factory.applyFormat spec n = .ok text) :
    (t.catalog.contains (Factory.pluralKey base .one) locale = true →
      t.textAt p v locale options =
        (t.wordIn locale (Factory.pluralKey base .one)).map (text ++ " " ++ ·)) ∧
    (t.catalog.contains (Factory.pluralKey base .one) locale = false →
      t.catalog.missing = failFast → n.pluralTag ≠ .other →
      t.textAt p v locale options =
        (t.wordIn locale (Factory.pluralKey base .other)).map (text ++ " " ++ ·)) ∧
    (t.catalog.contains (Factory.pluralKey base .one) locale = false →
      t.catalog.missing = substitute →
      t.textAt p v locale options = .ok (text ++ " " ++
        (Request.ofKey (Factory.pluralKey base .one) : Message).description)) := by
  have hstack : ∀ f ∈ p.stack, f.request.arguments ≠ [] := by
    have houter := arguments_of_moments hp
    cases hframes : p.stack with
    | nil => exact List.forall_mem_nil _
    | cons f rest =>
      rw [hframes] at houter harguments
      exact List.forall_mem_cons.2 ⟨harguments f rfl, houter⟩
  have hword : ∀ key, t.wordIn locale key = Evaluation.nestedText (Request.ofKey key) locale
      (Evaluation.evaluate t.catalog .oneFirst (Request.ofKey key) locale) :=
    congrFun (Evaluation.wordIn_eq (Nat.zero_lt_of_lt hroom) locale)
  have hformat : t.wordIn locale (Factory.formatKey n) = .ok spec := by
    rw [Translator.wordIn, hspec]
    rfl
  rw [Evaluation.textAt_number hstack hroom hnumber hfactory,
    Evaluation.numberValue_of_plural hcheck hplural hformat htext]
  refine ⟨fun hone => ?_, fun hone hmissing htag => ?_, fun hone hmissing => ?_⟩
  · rw [Evaluation.pluralText_of_one]
    intro e he
    rw [hword, Evaluation.nestedText, mapError_eq_error] at he
    obtain ⟨cause, hcause, rfl⟩ := he
    exact (Evaluation.onError_evaluate_of_contains hone cause hcause).isMissingText_eq
  · obtain ⟨cause, hcause, hmissingText⟩ := Evaluation.evaluate_of_failFast hone hmissing
    have herror : t.wordIn locale (Factory.pluralKey base .one) =
        .error (.nested (Request.ofKey (Factory.pluralKey base .one)) locale cause) := by
      rw [hword, hcause]
      rfl
    rw [Evaluation.pluralText_of_missing herror hmissingText htag]
  · have hsubstituted : t.wordIn locale (Factory.pluralKey base .one) =
        .ok (Request.ofKey (Factory.pluralKey base .one) : Message).description := by
      rw [hword, Evaluation.evaluate_of_substitute hone hmissing]
      rfl
    rw [Evaluation.pluralText_of_one, hsubstituted]
    · rfl
    · rw [hsubstituted]
      exact .ok _

/-! ## A plural text that is missing with the tag one -/

/-- The options that count cars. -/
def carOptions : Options :=
  Options.ofMembers [("plural", .string "cars")]

/-- A translator that looks for the tag one first and has only the tag other. -/
def counting (missing : MissingTextStrategy) : Translator where
  setting :=
    { catalog :=
        ⟨((Store.empty.insert "en" "cars" ⟨[.argument (.name "n") carOptions]⟩).insert
          "en" "cars.other" (Compiled.ofText "cars")).insert
          "en" "number.int" (Compiled.ofText "%d"),
          fun l => [l], missing⟩
      defaultLocale := "en"
      maxDepth := 2 }
  registry := Registry.builtins .oneFirst

/-- No cars. -/
def noCars : Message :=
  (Request.ofKey "cars").bind "n" (.integer 0)

/-- The moment at which the argument of `noCars` is formatted: its frame is on the stack. -/
def countingCars : Progress :=
  ⟨Registry.builtins .oneFirst, [⟨noCars, "en"⟩]⟩

theorem one_first_of_noCars :
    countingCars ∈ (counting failFast).moments noCars "en" ∧
    (counting failFast).catalog.contains (Factory.pluralKey "cars" .one) "en" = false ∧
    (counting failFast).textAt countingCars (.integer 0) "en" carOptions = .ok "0 cars" := by
  have hp : countingCars ∈ (counting failFast).moments noCars "en" :=
    List.mem_of_getElem? (i := 1) rfl
  have harguments : ∀ f ∈ countingCars.stack.head?, f.request.arguments ≠ [] := by
    rintro _ ⟨⟩
    exact List.cons_ne_nil _ _
  have hspec : ((counting failFast).translateTo
      (Request.ofKey (Factory.formatKey (.integer 0))) "en").1 = .ok "%d" := by cbv
  have htext : Factory.applyFormat "%d" (.integer 0) = .ok "0" := by cbv
  have hone : (counting failFast).catalog.contains (Factory.pluralKey "cars" .one) "en" =
      false := by cbv
  have hother : (counting failFast).wordIn "en" (Factory.pluralKey "cars" .other) =
      .ok "cars" := by cbv
  have hcheck : carOptions.check "number" [Factory.pluralOption] = .ok () := by cbv
  have hplural : carOptions.get? Factory.pluralOption = some (.string "cars") := by cbv
  have hlookup := one_first_lookup (v := .integer 0) hp harguments (by decide) rfl rfl hcheck
    hplural hspec htext
  refine ⟨hp, hone, (hlookup.2.1 hone rfl (by decide)).trans ?_⟩
  rw [hother]
  rfl

/-- Where missing texts are substituted, the same number is not followed by the text with the tag
other, although this is in the catalog and can be translated. -/
theorem other_is_not_tried :
    (counting substitute).catalog.contains (Factory.pluralKey "cars" .one) "en" = false ∧
    (counting substitute).catalog.contains (Factory.pluralKey "cars" .other) "en" = true ∧
    ((counting substitute).translateTo (Request.ofKey "cars.other") "en").1 = .ok "cars" ∧
    Number.pluralTag (.integer 0) = .zero ∧
    ((counting substitute).translateTo noCars "en").1 =
      .ok "0 MessageRequest(cars.one, [], \x7b\x7d)" := by
  exact ⟨by cbv, by cbv, by cbv, by decide, by cbv⟩

end Parlance

import Parlance.Proofs.Catalog.Builtins
import Parlance.Proofs.Evaluation.Agreement
import Parlance.Proofs.Number.Fixed
import Parlance.Proofs.Rendering.Lifetime

/-!
# Plain values in every locale

Plain values are texts, numbers and lists of plain values. All that their formatters need of the
catalog are the built-in messages. Where these are found in every locale, plain values are rendered
in every locale, and in all of them alike.

Results:
1. `enumeration_eq`: the text that the formatter of lists puts together.
2. `Value.Plain.made`: the built-in formatter of a plain value makes its text of it, if it is given
   the built-in messages and the texts of the items.
3. `meets_plainText`: so a message renders a plain value among its arguments as its text.
4. `plain_everywhere`: a message that shows a plain value has the same text in every locale.
-/

namespace Parlance

/-! ## Definitions -/

/-- Texts, numbers, and lists of such values. -/
inductive Value.Plain : Value → Prop
  | string (s : String) : Plain (.string s)
  | integer (n : Int) : Plain (.integer n)
  | float (x : Binary64) : Plain (.float x)
  | list {items : List Value} : (∀ v ∈ items, Plain v) → Plain (.list items)

/-- Some texts as one: the last two joined by a word, those before them by commas. -/
def enumeration : List String → String
  | [] => ""
  | [only] => only
  | [first, last] => first ++ " and " ++ last
  | first :: rest => first ++ ", " ++ enumeration rest

namespace Value

mutual

/-- The text of a plain value. -/
def plainText : Value → String
  | .string s => s
  | .integer n => toString n
  | .float x => x.twoPlaces
  | .list items => enumeration (plainTexts items)
  | .message _ | .custom .. => ""

/-- The texts of some plain values. -/
def plainTexts : List Value → List String
  | [] => []
  | v :: rest => plainText v :: plainTexts rest

end

end Value

/-- What is promised to the script for a plain value: the built-in messages, and the texts of the
items. -/
def Answers.plain (view : View) : Answers where
  view := view
  asks _ := True
  nested r _ x := ∀ m ∈ builtinMessages, r = Request.ofKey m.1 → x = .ok m.2
  takes _ := True
  part v _ o x := o = .none → v.Plain → x = .ok v.plainText

/-! ## Enumerations -/

theorem enumeration_eq (first second : String) (rest : List String) :
    String.intercalate ", " (first :: second :: rest).dropLast ++ " and " ++
      (first :: second :: rest).getLastD "" = enumeration (first :: second :: rest) := by
  induction rest generalizing first second with
  | nil => simp [enumeration]
  | cons third rest ih =>
    have henumeration : enumeration (first :: second :: third :: rest) =
      first ++ ", " ++ enumeration (second :: third :: rest) := rfl
    rw [henumeration, ← ih second third]
    simp [String.intercalate_cons_cons, String.append_assoc]

/-! ## Scripts -/

section

variable {view : View} {size : Nat} {locale : String}

theorem Script.ensures_bind_ok {bound : Nat} {α β : Type} {a : Answers} {b : α}
    {k : α → Script bound β} {post : Except RenderError β → Prop} (script : Script bound α)
    (h : script.Ensures a (· = .ok b)) (hk : (k b).Ensures a post) :
    (script >>= k).Ensures a post := by
  refine Discipline.ensures_bind script h (fun x hx => ?_) nofun
  obtain rfl := Except.ok.inj hx
  exact hk

namespace Factory

theorem ensures_word {m : String × String} (hm : m ∈ builtinMessages) :
    (Script.translatedKey m.1 locale : Script size String).Ensures (.plain view)
      (· = .ok m.2) := by
  refine ⟨trivial, fun x hx => ?_⟩
  rw [hx m hm rfl]
  rfl

theorem ensures_plainTexts {items : List Value} (hplain : ∀ v ∈ items, v.Plain)
    (hsize : ∀ v ∈ items, v.size < size) :
    (itemTexts locale items hsize).Ensures (.plain view) (· = .ok (Value.plainTexts items)) := by
  induction items with
  | nil => rfl
  | cons v rest ih =>
    have htext : (Script.formatted v (hsize v List.mem_cons_self) locale .none).Ensures
        (.plain view) (· = .ok v.plainText) := by
      refine ⟨trivial, fun x hx => ?_⟩
      rw [hx rfl (hplain v List.mem_cons_self)]
      rfl
    refine Script.ensures_bind_ok _ htext (Script.ensures_bind_ok _ (ih ?_ _) rfl)
    exact fun w hw => hplain w (List.mem_cons_of_mem v hw)

theorem ensures_enumeration {texts : List String} :
    (joined locale .conjunction texts : Script size String).Ensures (.plain view)
      (· = .ok (enumeration texts)) := by
  have hcomma : (listCommaKey, ", ") ∈ builtinMessages := by decide
  have hand : (Joiner.conjunction.key, " and ") ∈ builtinMessages := by decide
  match texts with
  | [] => rfl
  | [_] => rfl
  | [_, _] => exact Script.ensures_bind_ok _ (ensures_word hand) rfl
  | first :: second :: third :: rest =>
    rw [← enumeration_eq]
    exact Script.ensures_bind_ok _ (ensures_word hcomma)
      (Script.ensures_bind_ok _ (ensures_word hand) rfl)

theorem ensures_list {items : List Value} (hplain : ∀ v ∈ items, v.Plain) :
    (listFormatter locale .conjunction (.list items)).Ensures (.plain view)
      (· = .ok (Value.list items).plainText) := by
  cases items with
  | nil =>
    have hempty : (listEmptyKey, "") ∈ builtinMessages := by decide
    exact ensures_word hempty
  | cons first rest =>
    rw [Value.plainText]
    exact Script.ensures_bind_ok _ (ensures_plainTexts hplain _) ensures_enumeration

/-- A number is written in the built-in format of its key. -/
theorem ensures_number {lookup : PluralLookup} {v : Value} {n : Number} {spec text : String}
    (hn : v.number? = some n) (hspec : (formatKey n, spec) ∈ builtinMessages)
    (htext : applyFormat spec n = .ok text) :
    (numberFormatter lookup locale none v).Ensures (.plain view) (· = .ok text) := by
  have hnumber : (numberText locale n : Script v.size String).Ensures (.plain view)
      (· = .ok text) := by
    refine Script.ensures_bind_ok _ (ensures_word hspec) ?_
    rw [htext]
    rfl
  rw [numberFormatter, hn]
  exact Script.ensures_bind_ok _ hnumber rfl

end Factory

/-- A plain value has a built-in factory, whose formatter makes the text of the value. -/
theorem Value.Plain.made {v : Value} (h : v.Plain) (lookup : Factory.PluralLookup) :
    ∃ f, Registry.first (Factory.builtins lookup) v = .ok f ∧
      Formatter.Made (.plain view) v (· = .ok v.plainText) (f.create locale .none) := by
  cases h with
  | string s => exact ⟨Factory.text, rfl, rfl⟩
  | list hitems => exact ⟨Factory.list, rfl, Factory.ensures_list hitems⟩
  | integer n =>
    have hspec : (integerFormatKey, "%d") ∈ builtinMessages := by decide
    exact ⟨_, rfl, Factory.ensures_number rfl hspec (applyFormat_integer n)⟩
  | float x =>
    have hspec : (floatFormatKey, "%.2f") ∈ builtinMessages := by decide
    exact ⟨_, rfl, Factory.ensures_number rfl hspec (applyFormat_float x)⟩

end

/-! ## Renderings -/

namespace Discipline

variable {lookup : Factory.PluralLookup} {s : Setting} {st : List Frame} {room : Nat}
  (hwords : ∀ m ∈ builtinMessages, ∀ l,
    s.catalog.lookup (Request.ofKey m.1) l = .ok (Compiled.ofText m.2))

include hwords

/-- Inside messages with arguments, which are heavier, a built-in message has its own text. -/
theorem meets_builtinMessage (hst : ∀ f ∈ st, 1 < f.request.weight) {m : String × String}
    (hm : m ∈ builtinMessages) (l : String) :
    (knowing (·.Serves lookup)).Meets st (s.translateWithin (room + 1) (Request.ofKey m.1) l)
      (· = .ok m.2) := by
  refine meets_translateWithin_succ (fun hany => ?_) fun _ _ => ⟨trivial, ?_⟩
  · rw [Evaluation.any_same_eq_false (by simpa using hst)] at hany
    cases hany
  · exact meets_renderRequest_of_single (hwords m hm l) (meets_pure rfl)

theorem meets_answer (hst : ∀ f ∈ st, 1 < f.request.weight) (room : Nat) (view : View)
    (r : Message) (l : String) :
    (knowing (·.Serves lookup)).Meets st
      (Setting.translateNested (s.translateWithin (room + 1)) r l)
      ((Answers.plain view).nested r l) := by
  by_cases hbuiltin : ∃ m ∈ builtinMessages, r = Request.ofKey m.1
  · obtain ⟨m, hm, rfl⟩ := hbuiltin
    refine meets_translateNested (meets_builtinMessage hwords hst hm _) ?_ nofun
    intro text htext m' hm' hrequest
    rw [htext, Catalog.eq_of_mem_builtinMessages hm hm' (congrArg Request.key hrequest)]
  · have hother : ∀ x, (Answers.plain view).nested r l x :=
      fun x m hm hrequest => absurd ⟨m, hm, hrequest⟩ hbuiltin
    exact meets_translateNested
      (meets_knowing (fun _ v l o h => h.formatterFor v l o) s (room + 1) st r _)
      (fun _ _ => hother _) fun _ _ => hother _

/-- Inside messages with arguments a plain value is rendered as its text. -/
theorem meets_plainText (hst : ∀ f ∈ st, 1 < f.request.weight) {v : Value} (hv : v.Plain)
    (l : String) :
    (knowing (·.Serves lookup)).Meets st
      (s.format (Setting.translateNested (s.translateWithin (room + 1))) v l .none)
      (· = .ok v.plainText) := by
  have hformat := meets_format (d := knowing (·.Serves lookup)) (s := s)
    (a := .plain ⟨s.catalog, s.defaultLocale, st.reverse⟩) rfl
    (fun r l _ => meets_answer hwords hst room _ r l) ?_ v l .none trivial
  · exact hformat.mono fun x hx => hx rfl hv
  · intro w l' o registry _ hregistry
    refine ⟨holds_knowing (hregistry.2.formatterFor w l' o), ?_⟩
    by_cases hplain : o = .none ∧ w.Plain
    · obtain ⟨rfl, hw⟩ := hplain
      obtain ⟨f, hfirst, hmade⟩ := hw.made lookup
      rw [hregistry.2.formatterFor_eq_create hfirst]
      exact Formatter.made_mono (fun x hx _ _ => hx) hmade
    · -- Nothing is promised of other values and options.
      exact made_of_forall (fun _ => trivial) (fun _ => trivial)
        (fun x ho hw => absurd ⟨ho, hw⟩ hplain) _

/-- A message that shows a plain value is rendered as the text of this value. -/
theorem meets_shown {r : Message} {l : String} {reference : Reference} {v : Value}
    (hlookup : s.catalog.lookup r l = .ok ⟨[.argument reference .none]⟩)
    (hresolve : reference.resolve r = .ok v) (hv : v.Plain) :
    (knowing (·.Serves lookup)).Meets [] (s.translateWithin (room + 2) r l)
      (· = .ok v.plainText) := by
  have hweight := Request.weight_lt_of_mem (Evaluation.mem_arguments_of_resolve hresolve)
  have hst : ∀ f ∈ [(⟨r, l⟩ : Frame)], 1 < f.request.weight :=
    List.forall_mem_singleton.2 (Evaluation.one_lt_of_weight hweight)
  refine meets_translateWithin_succ nofun fun _ _ => ⟨trivial, ?_⟩
  refine meets_renderRequest_of_single hlookup ?_
  rw [Setting.renderFragment, hresolve]
  refine meets_bind (P := (· = .ok v)) (meets_ofExcept rfl) (fun w hw => ?_) fun e he => ?_
  · obtain rfl := Except.ok.inj hw
    exact meets_plainText hwords hst hv l
  · cases he

end Discipline

/-! ## Translations -/

/-- Take a translator with the truncating chain over a default locale, after any operations. Among
them the built-in messages were stored under the default locale, and nothing else was written under
their keys. A message that is registered for the default locale only, and shows one of its arguments
without options, is then translated to every locale, whatever text that is: if the argument is a
plain value, as its text, which does not depend on the locale. The two decimal places that the text
of a finite double has are the nearest ones to its exact value. -/
theorem Translator.plain_everywhere {default : String} {missing : MissingTextStrategy}
    {lookup : Factory.PluralLookup} {maxDepth : Nat} (hdepth : 2 ≤ maxDepth)
    {operations : List Operation} {t : Translator}
    (ht : t = (new default missing (Locale.truncatingChain default) lookup maxDepth).operated
      operations)
    (hprovides : Catalog.Provides default (changes operations)) {r : Message}
    {reference : Reference} {v : Value}
    (honly : t.catalog.get? r.key default = some ⟨[.argument reference .none]⟩)
    (hothers : ∀ l, l ≠ default → t.catalog.get? r.key l = none)
    (hresolve : reference.resolve r = .ok v) (hv : v.Plain) :
    (∀ l, (t.translateTo r l).1 = .ok v.plainText) ∧
      (∀ locale, (t.translate r locale).1 = .ok v.plainText) ∧
      ∀ (x : Finite) (n : Nat), NearestEven (100 * |x.value|) n ↔ n = x.hundredths := by
  have hcatalog : t.setting.catalog =
      (Catalog.new (Locale.truncatingChain default) missing).after (changes operations) := by
    rw [ht]
    exact catalog_operated operations
  have hmaxDepth : t.setting.maxDepth = maxDepth := by
    rw [ht, setting_operated]
    rfl
  have hwords : ∀ m ∈ builtinMessages, ∀ l,
      t.setting.catalog.lookup (Request.ofKey m.1) l = .ok (Compiled.ofText m.2) := by
    rw [hcatalog]
    exact fun m hm l => hprovides.lookup_eq hm l
  have hlookup : ∀ l, t.setting.catalog.lookup r l = .ok ⟨[.argument reference .none]⟩ :=
    Catalog.lookup_of_default (by rw [hcatalog, Catalog.after_eq]; rfl) honly hothers
  have hserves : t.registry.Serves lookup := ht ▸ serves_operated (.builtins lookup) operations
  obtain ⟨room, hroom⟩ := Nat.exists_eq_add_of_le' hdepth
  have hall : ∀ l, (t.translateTo r l).1 = .ok v.plainText := by
    intro l
    have hmeets : (Discipline.knowing (·.Serves lookup)).Meets []
        (t.setting.translateWithin t.setting.maxDepth r l) (· = .ok v.plainText) := by
      rw [hmaxDepth, hroom]
      exact Discipline.meets_shown hwords (hlookup l) hresolve hv
    obtain ⟨x, rfl, htext, -⟩ :=
      Discipline.translateTo_of_meets hmeets (Discipline.holds_knowing hserves) trivial
    exact htext
  exact ⟨hall, fun locale => hall _, fun _ _ => Finite.nearest_iff_eq_hundredths⟩

/-- A factory for every value is registered and a list fails to be translated, before there are
messages. -/
def Translator.detours : List Operation :=
  [.call (.registry (.register ⟨"any", fun _ => true, fun _ _ => .ok fun _ => .done "any"⟩)),
    .call (.translate { key := "show", args := [.list []] } (some "de")),
    .change (.registerBuiltins "en"),
    .change (.register "show" "en" (.segments [.argument (.index 0) .none]))]

/-- An eighth, which is midway between two hundredths, the even one below it. -/
def Finite.eighth : Finite :=
  ⟨false, twoTo 1071, by decide +kernel⟩

/-- Minus three eighths, also midway, the even hundredth beyond it. -/
def Finite.minusThreeEighths : Finite :=
  ⟨true, 3 * twoTo 1071, by decide +kernel⟩

/-- A list in a list, with doubles midway between two texts, and numbers that are none or beyond all
others. -/
def Value.assorted : Value :=
  .list [.string "a", .integer (-30), .float (.finite .eighth), .list [],
    .list [.float (.finite .minusThreeEighths), .float .nan, .float (.infinite true)]]

theorem assorted_everywhere :
    let t := (Translator.new "en" failFast (Locale.truncatingChain "en") .byTag 2).operated
      Translator.detours
    (∀ l, (t.translateTo { key := "show", args := [.assorted] } l).1 =
      .ok "a, -30, 0.12,  and -0.38, NaN and -inf") ∧
    (∀ locale, (t.translate { key := "show", args := [.assorted] } locale).1 =
      .ok "a, -30, 0.12,  and -0.38, NaN and -inf") ∧
    NearestEven (100 * |Finite.eighth.value|) 12 ∧
    NearestEven (100 * |Finite.minusThreeEighths.value|) 38 := by
  intro t
  have hplain : Value.assorted.Plain := by
    refine .list ?_
    simp only [List.forall_mem_cons]
    refine ⟨.string _, .integer _, .float _, .list nofun, .list ?_, nofun⟩
    simp only [List.forall_mem_cons]
    exact ⟨.float _, .float _, .float _, nofun⟩
  have hprovides : Catalog.Provides "en" (Translator.changes Translator.detours) := by
    refine ⟨List.mem_cons_self, List.forall_mem_cons.2 ⟨fun hne => absurd rfl hne, ?_⟩⟩
    exact List.forall_mem_singleton.2 fun _ => List.forall_mem_singleton.2 (by decide)
  have henglish : ∀ e ∈ (Translator.changes Translator.detours).flatMap Catalog.Change.writes,
      e.1.1 = "en" := by
    decide
  have honly : t.catalog.get? "show" "en" = some ⟨[.argument (.position 0) .none]⟩ := by
    rw [Translator.catalog_operated, Catalog.get?_after_new]
    rfl
  have hothers : ∀ l, l ≠ "en" → t.catalog.get? "show" l = none := by
    intro l hl
    rw [Translator.catalog_operated, Catalog.get?_after_new]
    refine Store.lastWrite?_eq_none_iff.2 fun e he hplace => hl ?_
    rw [← henglish e he, hplace]
  have hresolve : (Reference.position 0).resolve { key := "show", args := [.assorted] } =
    .ok .assorted := rfl
  have htext : Value.assorted.plainText = "a, -30, 0.12,  and -0.38, NaN and -inf" := by
    decide +kernel
  obtain ⟨hall, htranslate, hnearest⟩ :=
    Translator.plain_everywhere (Nat.le_refl 2) rfl hprovides honly hothers hresolve hplain
  rw [htext] at hall htranslate
  exact ⟨hall, htranslate, (hnearest _ _).2 (by decide +kernel),
    (hnearest _ _).2 (by decide +kernel)⟩

end Parlance

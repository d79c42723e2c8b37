import Mathlib
import Parlance.Proofs.Rendering.Scanning
import Parlance.Translator.Basic

/-!
# What a registry remembers cannot be observed

A translator is called to register factories, to look for the factory of a value and to translate
requests. If every factory decides by the type of a value alone, all answers are those of a scanner,
which remembers nothing between two calls, nor between two values of one call.

Results:
1. `Remembers.perform`: a call gives a translator and its scanner the same answer, and leaves them
   alike.
2. `Remembers.answers`: so does every sequence of calls, by induction.
3. `memory_is_unobservable`: what a request is translated to depends on the factories registered
   before it, and on nothing else that came before.
-/

namespace Parlance

/-! ## Definitions -/

/-- A call of a translator: one of its registry, or a request to be translated to a locale, which
may be left open. -/
inductive Translator.Call where
  | registry (call : Registry.Call)
  | translate (r : Message) (locale : Option String)

/-- The answer to a call. -/
inductive Translator.Answer where
  | registry (answer : Option (Except RenderError Factory))
  | translated (outcome : Except TranslateError String)

namespace Translator

/-- The answer to a call and the translator after it. -/
def perform (t : Translator) : Call → Answer × Translator
  | .registry (.register f) => (.registry none, t.registerFactory f)
  | .registry (.factoryFor v) =>
    (.registry (some (t.registry.factoryFor v).1),
      { t with registry := (t.registry.factoryFor v).2 })
  | .translate r locale => (.translated (t.translate r locale).1, (t.translate r locale).2)

/-- The translator after some calls, one after the other. -/
def after (t : Translator) (calls : List Call) : Translator :=
  calls.foldl (fun t c => (t.perform c).2) t

/-- The answers to some calls, one after the other. -/
def answers (t : Translator) : List Call → List Answer
  | [] => []
  | c :: rest => (t.perform c).1 :: (t.perform c).2.answers rest

/-- The factories that some calls register, in order. -/
def registered (calls : List Call) : List Factory :=
  Registry.registered <| calls.filterMap fun c =>
    match c with
    | .registry c => some c
    | .translate .. => none

end Translator

namespace Scanner

/-- The translator's scanner has the same setting and factories. -/
def ofTranslator (t : Translator) : Scanner :=
  ⟨t.setting, t.registry.factories⟩

/-- What a request is translated to, in the locale given, else in the one it prefers, else in the
default locale. -/
def translate (s : Scanner) (r : Message) (locale : Option String) :
    Except TranslateError String :=
  let l := (locale.orElse fun _ => r.locale).getD s.setting.defaultLocale
  (s.messageText s.setting.maxDepth [] r l).mapError (TranslateError.mk r l)

/-- The answer to a call and the scanner after it. Only a registration changes it. -/
def perform (s : Scanner) : Translator.Call → Translator.Answer × Scanner
  | .registry (.register f) => (.registry none, { s with factories := s.factories ++ [f] })
  | .registry (.factoryFor v) => (.registry (some (Registry.first s.factories v)), s)
  | .translate r locale => (.translated (s.translate r locale), s)

/-- The scanner after some calls, one after the other. -/
def after (s : Scanner) (calls : List Translator.Call) : Scanner :=
  calls.foldl (fun s c => (s.perform c).2) s

/-- The answers to some calls, one after the other. -/
def answersTo (s : Scanner) : List Translator.Call → List Translator.Answer
  | [] => []
  | c :: rest => (s.perform c).1 :: (s.perform c).2.answersTo rest

end Scanner

/-- The translator has the setting and the factories of the scanner. All factories decide by the
type of a value, and what the translator remembers of them is right. -/
structure Remembers (s : Scanner) (t : Translator) : Prop where
  setting : t.setting = s.setting
  registry : t.registry.Reliable s.factories
  types : ∀ f ∈ s.factories, f.TypeDetermined

/-! ## One call -/

/-- A call changes nothing of a scanner but its factories, and these only by registering more. -/
theorem Scanner.perform_snd (s : Scanner) (c : Translator.Call) :
    (s.perform c).2 = { s with factories := s.factories ++ Translator.registered [c] } := by
  match c with
  | .registry (.register f) => rfl
  | .registry (.factoryFor v) => simp [perform, Translator.registered, Registry.registered]
  | .translate r locale => simp [perform, Translator.registered, Registry.registered]

namespace Remembers

variable {s : Scanner} {t : Translator}

theorem of_resolved_eq_nil (hresolved : t.registry.resolved = [])
    (htypes : ∀ f ∈ t.registry.factories, f.TypeDetermined) :
    Remembers (.ofTranslator t) t :=
  ⟨rfl, .of_resolved_eq_nil hresolved, htypes⟩

/-- A translation gives what scanning gives, and what is remembered after it is right. -/
theorem translateTo (h : Remembers s t) (r : Message) (l : String) :
    (t.translateTo r l).1 =
        (s.messageText s.setting.maxDepth [] r l).mapError (TranslateError.mk r l) ∧
      Remembers s (t.translateTo r l).2 := by
  have hmeets := s.meets_messageText h.types s.setting.maxDepth [] r l
  rw [← h.setting] at hmeets ⊢
  obtain ⟨x, rfl, houtcome, hsetting, hreliable⟩ :=
    Discipline.translateTo_of_meets hmeets h.registry trivial
  exact ⟨houtcome, hsetting.trans h.setting, hreliable, h.types⟩

theorem translate (h : Remembers s t) (r : Message) (locale : Option String) :
    (t.translate r locale).1 = s.translate r locale ∧ Remembers s (t.translate r locale).2 := by
  unfold Translator.translate
  rw [h.setting]
  exact h.translateTo r _

/-- A call that registers no other factories is answered alike, and leaves both alike. -/
theorem perform (h : Remembers s t) (c : Translator.Call)
    (hc : ∀ f ∈ Translator.registered [c], f.TypeDetermined) :
    (t.perform c).1 = (s.perform c).1 ∧ Remembers (s.perform c).2 (t.perform c).2 := by
  have htypes : ∀ f ∈ (s.perform c).2.factories, f.TypeDetermined := by
    rw [s.perform_snd c]
    exact fun f hf => (List.mem_append.1 hf).elim (h.types f) (hc f)
  match c with
  | .registry (.register f) => exact ⟨rfl, h.setting, h.registry.register f, htypes⟩
  | .registry (.factoryFor v) =>
    obtain ⟨hfirst, hreliable⟩ := h.registry.factoryFor h.types v
    simp only [Translator.perform, hfirst]
    exact ⟨rfl, h.setting, hreliable, htypes⟩
  | .translate r locale =>
    obtain ⟨houtcome, hafter⟩ := h.translate r locale
    simp only [Translator.perform, houtcome]
    exact ⟨rfl, hafter⟩

end Remembers

/-! ## All calls -/

theorem Translator.registered_cons (c : Call) (rest : List Call) :
    registered (c :: rest) = registered [c] ++ registered rest := by
  unfold registered Registry.registered
  rw [← List.filterMap_append, ← List.filterMap_append, List.singleton_append]

/-- All calls are answered alike, and leave both alike. -/
theorem Remembers.answers {s : Scanner} {t : Translator} (h : Remembers s t)
    (calls : List Translator.Call)
    (hcalls : ∀ f ∈ Translator.registered calls, f.TypeDetermined) :
    t.answers calls = s.answersTo calls ∧ Remembers (s.after calls) (t.after calls) := by
  induction calls generalizing s t with
  | nil => exact ⟨rfl, h⟩
  | cons c rest ih =>
    rw [Translator.registered_cons] at hcalls
    obtain ⟨hanswer, hnext⟩ := h.perform c fun f hf => hcalls f (List.mem_append_left _ hf)
    obtain ⟨hanswers, hafter⟩ := ih hnext fun f hf => hcalls f (List.mem_append_right _ hf)
    refine ⟨?_, hafter⟩
    rw [Translator.answers, Scanner.answersTo, hanswer, hanswers]

theorem Scanner.after_eq (s : Scanner) (calls : List Translator.Call) :
    s.after calls = { s with factories := s.factories ++ Translator.registered calls } := by
  induction calls generalizing s with
  | nil => simp [after, Translator.registered, Registry.registered]
  | cons c rest ih =>
    show (s.perform c).2.after rest = _
    rw [ih, perform_snd, Translator.registered_cons c rest, List.append_assoc]

/-- A translator begins with nothing remembered. If all its factories and all that are registered
later decide by the type of a value alone, every sequence of calls is answered as by a scanner with
these factories, which remembers nothing and tries them in their order each time. So a request is
translated alike after any two sequences of calls that register the same factories, whatever was
translated or looked for in between, and with whatever success. Calls of the registry alone are a
case of this. -/
theorem memory_is_unobservable {t : Translator} (hresolved : t.registry.resolved = [])
    (htypes : ∀ f ∈ t.registry.factories, f.TypeDetermined) :
    (∀ calls, (∀ f ∈ Translator.registered calls, f.TypeDetermined) →
      t.answers calls = (Scanner.ofTranslator t).answersTo calls) ∧
    ∀ calls calls', (∀ f ∈ Translator.registered calls, f.TypeDetermined) →
      Translator.registered calls = Translator.registered calls' →
      ∀ r locale,
        ((t.after calls).translate r locale).1 = ((t.after calls').translate r locale).1 := by
  have hstart : Remembers (.ofTranslator t) t := .of_resolved_eq_nil hresolved htypes
  refine ⟨fun calls hcalls => (hstart.answers calls hcalls).1, ?_⟩
  intro calls calls' hcalls heq r l
  have hafter := (hstart.answers calls hcalls).2
  have hafter' := (hstart.answers calls' (heq ▸ hcalls)).2
  rw [Scanner.after_eq] at hafter hafter'
  rw [← heq] at hafter'
  rw [(hafter.translate r l).1, (hafter'.translate r l).1]

/-! ## A type that gets its factory late -/

/-- A factory for values of one type of their owner's, each shown by its text. -/
def showing (type : String) : Factory where
  name := "showing"
  canHandle v := v.type == .custom type
  create _ _ := .ok fun v =>
    match v with
    | .custom _ _ text _ => .done text
    | v => .fail (.unexpectedValue "showing" v.type)

theorem typeDetermined_showing (type : String) : (showing type).TypeDetermined :=
  fun v w h => by simp only [showing, h]

/-- A translator whose only message shows its arguments. -/
def dating : Translator where
  setting :=
    { catalog :=
        ⟨Store.empty.insert "en" "both"
          ⟨[.argument (.position 0) .none, .text ": ", .argument (.position 1) .none]⟩,
          fun l => [l], failFast⟩
      defaultLocale := "en"
      maxDepth := 3 }
  registry := Registry.builtins .byTag

/-- A text and a value that has no factory among the built-in ones. -/
def dated : Message :=
  ((Request.ofKey "both").arg (.string "day")).arg (.custom 0 "Date" "2016-12-26" [])

/-- The first translation finds the factory for the text and then fails. -/
def datingCalls : List Translator.Call :=
  [.translate dated none, .registry (.register (showing "Date")),
   .registry (.factoryFor (.custom 1 "Date" "" [])), .translate dated (some "en")]

theorem memory_of_dating :
    dating.registry.resolved = [] ∧
    (∀ f ∈ dating.registry.factories, f.TypeDetermined) ∧
    (∀ f ∈ Translator.registered datingCalls, f.TypeDetermined) ∧
    (dating.after datingCalls).registry.resolved = [(.custom "Date", 4), (.string, 0)] ∧
    dating.answers datingCalls = (Scanner.ofTranslator dating).answersTo datingCalls ∧
    ((dating.after datingCalls).translate dated).1 = .ok "day: 2016-12-26" ∧
    ((dating.after [.registry (.register (showing "Date"))]).translate dated).1 =
      .ok "day: 2016-12-26" := by
  have htypes : ∀ f ∈ dating.registry.factories, f.TypeDetermined :=
    Factory.builtins_typeDetermined .byTag
  have hcalls : ∀ f ∈ Translator.registered datingCalls, f.TypeDetermined := by
    intro f hf
    obtain rfl := List.mem_singleton.1 hf
    exact typeDetermined_showing "Date"
  have hmemory := @memory_is_unobservable dating rfl htypes
  have htext : ((dating.after datingCalls).translate dated).1 = .ok "day: 2016-12-26" := by cbv
  refine ⟨rfl, htypes, hcalls, by cbv, hmemory.1 datingCalls hcalls, htext, ?_⟩
  rw [← htext]
  exact (hmemory.2 datingCalls [.registry (.register (showing "Date"))] hcalls rfl dated none).symm

end Parlance

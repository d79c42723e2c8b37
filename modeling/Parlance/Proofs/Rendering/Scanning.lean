import Parlance.Proofs.Formatter.History
import Parlance.Proofs.Rendering.Contract

/-!
# Rendering without memory

Rendering as a pure function of a request, its locale and the messages that are being rendered.
Nothing is remembered from one value to the next: for every value the factories are tried in their
order anew. Formatters are as free as ever in what they ask for and in what they make of the
answers.

Results:
1. `Registry.Reliable.formatterFor`, `Registry.Reliable.register`: a registry of type-determined
   factories answers as if it scanned them, and goes on to do so.
2. `Scanner.meets_messageText`: so a message is rendered to what scanning gives, on every stack.
-/

namespace Parlance

/-! ## Definitions -/

/-- The outcome of a script, given what it sees and the outcomes of what it asks for. -/
def Script.outcome {bound : Nat} {α : Type} (view : View)
    (nested : Message → String → Except RenderError String)
    (part : (v : Value) → v.size < bound → String → Options → Except RenderError String) :
    Script bound α → Except RenderError α
  | .done a => .ok a
  | .fail e => .error e
  | .translate r l next => (next (nested r l)).outcome view nested part
  | .format v h l o next => (next (part v h l o)).outcome view nested part
  | .inspect next => (next view).outcome view nested part

/-- A setting with factories, of which none is ever remembered. -/
structure Scanner where
  setting : Setting
  factories : List Factory

namespace Scanner

/-- What a script can look at. -/
def view (s : Scanner) (stack : List Frame) : View :=
  ⟨s.setting.catalog, s.setting.defaultLocale, stack.reverse⟩

/-- The formatter for a value, by the first factory that handles it. -/
def formatterFor (s : Scanner) (v : Value) (locale : String) (options : Options) :
    Except RenderError Formatter := do
  let factory ← Registry.first s.factories v
  factory.create locale options

/-- The text of a value in a locale and with options. -/
def valueText (s : Scanner) (stack : List Frame)
    (nested : Message → String → Except RenderError String) (v : Value) (locale : String)
    (options : Options) : Except RenderError String := do
  let formatter ← s.formatterFor v locale options
  (formatter v).outcome (s.view stack) nested fun part _ l o => s.valueText stack nested part l o
termination_by v.size

/-- The text of a fragment of the message for a request. -/
def fragmentText (s : Scanner) (stack : List Frame)
    (nested : Message → String → Except RenderError String) (r : Message) (locale : String) :
    Fragment → Except RenderError String
  | .text t => .ok t
  | .argument reference options => do
    let v ← reference.resolve r
    s.valueText stack nested v locale options

/-- The text of a request: of its fragments, from left to right. -/
def requestText (s : Scanner) (stack : List Frame)
    (nested : Message → String → Except RenderError String) (r : Message) (locale : String) :
    Except RenderError String := do
  let compiled ← s.setting.catalog.lookup r locale
  let texts ← compiled.fragments.mapM (s.fragmentText stack nested r locale)
  return String.join texts

/-- The text of a message in a locale on a stack, with `room` for more messages. A message in it is
rendered on the stack grown by its frame, and the failure of one is wrapped. -/
def messageText (s : Scanner) : (room : Nat) → (stack : List Frame) → Message →
    (locale : String) → Except RenderError String
  | 0, _, _, _ => .error (.maxDepthExceeded s.setting.maxDepth)
  | room + 1, stack, r, locale =>
    if stack.any (Frame.same ⟨r, locale⟩) then
      .error (.cyclicReference (Run.keysTo ⟨r, locale⟩ stack))
    else
      s.requestText (⟨r, locale⟩ :: stack) (fun m around =>
        (s.messageText room (⟨r, locale⟩ :: stack) m (Setting.targetLocale m around)).mapError
          (.nested m (Setting.targetLocale m around))) r locale

/-- The answers that a script gets when nothing is remembered. -/
def answers (s : Scanner) (stack : List Frame)
    (nested : Message → String → Except RenderError String) : Answers where
  view := s.view stack
  asks _ := True
  nested m l x := x = nested m l
  takes _ := True
  part v l o x := x = s.valueText stack nested v l o

end Scanner

/-- A registry that holds these factories, and answers right for all that it remembers. -/
structure Registry.Reliable (factories : List Factory) (r : Registry) : Prop where
  factories_eq : r.factories = factories
  sound : r.Sound
  records : ∃ past, r.Records past

/-- The registry is reliable. The stack may be any. -/
def Discipline.reliable (factories : List Factory) : Discipline where
  registry r := r.Reliable factories
  stack _ := True

/-! ## The registry -/

namespace Registry

theorem first_append {factories more : List Factory} {v : Value} {f : Factory}
    (h : first factories v = .ok f) : first (factories ++ more) v = .ok f := by
  unfold first at h ⊢
  rw [List.find?_append]
  cases hfind : factories.find? fun f => f.canHandle v with
  | none =>
    rw [hfind] at h
    cases h
  | some g =>
    rw [hfind] at h
    exact h

namespace Reliable

variable {factories : List Factory} {r : Registry}

theorem of_resolved_eq_nil (h : r.resolved = []) : r.Reliable r.factories :=
  ⟨rfl, sound_of_resolved_eq_nil h, [], .of_resolved_eq_nil h⟩

theorem register (h : r.Reliable factories) (f : Factory) :
    (r.register f).Reliable (factories ++ [f]) := by
  obtain ⟨rfl, hsound, past, hrecords⟩ := h
  refine ⟨rfl, fun type g hg v hv => first_append (hsound type g ?_ v hv), past,
    hrecords.register f⟩
  -- The new factory is at a place that is not remembered for any type.
  rwa [hrecords.remembered, ← (hrecords.register f).remembered]

theorem factoryFor (h : r.Reliable factories) (htypes : ∀ f ∈ factories, f.TypeDetermined)
    (v : Value) :
    (r.factoryFor v).1 = first factories v ∧ (r.factoryFor v).2.Reliable factories := by
  obtain ⟨rfl, hsound, past, hrecords⟩ := h
  obtain ⟨hfirst, hsound'⟩ := factoryFor_of_sound htypes hsound v
  exact ⟨hfirst, factories_factoryFor r v, hsound', _, hrecords.factoryFor v⟩

theorem formatterFor (h : r.Reliable factories) (htypes : ∀ f ∈ factories, f.TypeDetermined)
    (v : Value) (l : String) (o : Options) :
    (r.formatterFor v l o).1 = (first factories v >>= fun f => f.create l o) ∧
      (r.formatterFor v l o).2.Reliable factories := by
  obtain ⟨hfirst, hreliable⟩ := h.factoryFor htypes v
  rw [formatterFor_eq, hfirst]
  exact ⟨rfl, hreliable⟩

end Reliable

end Registry

/-! ## Scripts and values -/

namespace Script

variable {bound : Nat} {α β : Type} {view : View}
  {nested : Message → String → Except RenderError String}
  {part : (v : Value) → v.size < bound → String → Options → Except RenderError String}

theorem outcome_bind (script : Script bound α) (k : α → Script bound β) :
    (script >>= k).outcome view nested part =
      script.outcome view nested part >>= fun a => (k a).outcome view nested part := by
  show (script.bind k).outcome view nested part = _
  induction script with
  | done a => rfl
  | fail e => rfl
  | translate r l next ih => exact ih _
  | format v h l o next ih => exact ih _
  | inspect next ih => exact ih _

theorem outcome_ofExcept (x : Except RenderError α) :
    (ofExcept x : Script bound α).outcome view nested part = x := by
  cases x <;> rfl

theorem outcome_translatedKey (key locale : String) :
    (translatedKey key locale : Script bound String).outcome view nested part =
      nested (Request.ofKey key) locale :=
  outcome_ofExcept _

end Script

/-- A script has the outcome that follows from the outcomes of what it asks for. -/
theorem Script.ensures_outcome {bound : Nat} {α : Type} {view : View}
    {nested : Message → String → Except RenderError String}
    {part : Value → String → Options → Except RenderError String} (script : Script bound α) :
    script.Ensures
      ⟨view, fun _ => True, fun m l x => x = nested m l, fun _ => True,
        fun v l o x => x = part v l o⟩
      (· = script.outcome view nested fun v _ l o => part v l o) := by
  induction script with
  | done a => rfl
  | fail e => rfl
  | translate r l next ih => exact ⟨trivial, fun x hx => hx ▸ ih _⟩
  | format v h l o next ih => exact ⟨trivial, fun x hx => hx ▸ ih _⟩
  | inspect next ih => exact ih view

namespace Scanner

variable {s : Scanner} {st : List Frame} {r : Message} {l : String}
  {nested : Message → String → Run String} {text : Message → String → Except RenderError String}

/-- A value is rendered to what scanning gives, if the messages in it are. -/
theorem meets_valueText (htypes : ∀ f ∈ s.factories, f.TypeDetermined)
    (hnested : ∀ m l, (Discipline.reliable s.factories).Meets st (nested m l) (· = text m l))
    (v : Value) (o : Options) :
    (Discipline.reliable s.factories).Meets st (s.setting.format nested v l o)
      (· = s.valueText st text v l o) := by
  refine Discipline.meets_format (a := s.answers st text) rfl (fun m l _ => hnested m l) ?_ v l o
    trivial
  intro w l' o' registry _ hreliable
  obtain ⟨hformatter, hreliable'⟩ := hreliable.formatterFor htypes w l' o'
  refine ⟨hreliable', ?_⟩
  show Formatter.Made _ w (· = s.valueText st text w l' o') _
  rw [hformatter, valueText, formatterFor]
  cases Registry.first s.factories w >>= fun f => f.create l' o' with
  | ok formatter => exact Script.ensures_outcome (formatter w)
  | error e => rfl

/-! ## Requests and messages -/

theorem meets_fragmentText (htypes : ∀ f ∈ s.factories, f.TypeDetermined)
    (hnested : ∀ m l, (Discipline.reliable s.factories).Meets st (nested m l) (· = text m l))
    (fragment : Fragment) :
    (Discipline.reliable s.factories).Meets st (s.setting.renderFragment nested r l fragment)
      (· = s.fragmentText st text r l fragment) := by
  cases fragment with
  | text t => exact Discipline.meets_pure rfl
  | argument reference options =>
    exact Discipline.meets_bind_eq (Discipline.meets_ofExcept rfl) fun v =>
      meets_valueText htypes hnested v options

/-- A message is rendered to what scanning gives, on every stack and with any room. -/
theorem meets_messageText (s : Scanner) (htypes : ∀ f ∈ s.factories, f.TypeDetermined)
    (room : Nat) (st : List Frame) (r : Message) (l : String) :
    (Discipline.reliable s.factories).Meets st (s.setting.translateWithin room r l)
      (· = s.messageText room st r l) := by
  induction room generalizing st r l with
  | zero => exact Discipline.meets_fail rfl
  | succ room ih =>
    refine Discipline.meets_translateWithin_succ (fun hany => ?_) fun hany _ => ⟨trivial, ?_⟩
    · rw [messageText, if_pos hany]
    · rw [messageText, hany, if_neg Bool.false_ne_true]
      refine Discipline.meets_renderRequest_eq (meets_fragmentText htypes fun m around => ?_)
      refine Discipline.meets_translateNested (ih (⟨r, l⟩ :: st) m _) ?_ ?_
      · intro text htext
        rw [← htext]
        rfl
      · intro cause hcause
        rw [← hcause]
        rfl

end Scanner

end Parlance

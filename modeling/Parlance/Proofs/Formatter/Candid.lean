import Parlance.Proofs.Formatter.Resolution

/-!
# Candid formatters

Rendering raises three kinds of errors of its own: a cycle, a stack that is too high, and the
failure of a nested message. A formatter is candid if it makes none of these up: it fails with
errors of the other kinds, or passes an error on that it was given as an answer, unchanged.

`Script.Candid` states this for any set of errors that may be raised and for whatever answers the
script gets, possible or not, so that it can be read off the script alone. The main result is
`builtins_candid`: all built-in formatters are candid.
-/

namespace Parlance

/-! ## Definitions -/

/-- An error that a formatter or a strategy for missing texts may raise itself. -/
def RenderError.IsOwn : RenderError → Prop
  | .cyclicReference _ => False
  | .maxDepthExceeded _ => False
  | .nested .. => False
  | _ => True

/-- A fault in a request, or in the options and formats of a message: an error that formatters find
for themselves and that has nothing to do with other messages. -/
def RenderError.IsFault : RenderError → Prop
  | .argumentIndex .. => True
  | .argumentName .. => True
  | .noFormatter _ => True
  | .unexpectedValue .. => True
  | .invalidOption .. => True
  | .numberSpec _ => True
  | _ => False

/-- A script that has `received` some errors already fails only with an error that may be raised or
with one that it received. -/
def Script.Candid {bound : Nat} {α : Type} (raises : RenderError → Prop)
    (received : RenderError → Prop) : Script bound α → Prop
  | .done _ => True
  | .fail e => raises e ∨ received e
  | .translate _ _ next => ∀ x, (next x).Candid raises fun e => received e ∨ x = .error e
  | .format _ _ _ _ next => ∀ x, (next x).Candid raises fun e => received e ∨ x = .error e
  | .inspect next => ∀ view, (next view).Candid raises received

/-- A factory that fails only with errors that may be raised, and makes only formatters whose
scripts are candid. -/
def Factory.Candid (raises : RenderError → Prop) (f : Factory) : Prop :=
  ∀ locale options,
    match f.create locale options with
    | .ok formatter => ∀ v, (formatter v).Candid raises fun _ => False
    | .error e => raises e

/-! ## Errors -/

theorem RenderError.IsOwn.root_eq {e : RenderError} (h : e.IsOwn) : e.root = e := by
  cases e with
  | nested r l cause => cases h
  | _ => rfl

theorem RenderError.IsOwn.frames_eq {e : RenderError} (h : e.IsOwn) : e.frames = [] := by
  cases e with
  | nested r l cause => cases h
  | _ => rfl

theorem RenderError.IsFault.isOwn {e : RenderError} (h : e.IsFault) : e.IsOwn := by
  cases e <;> first | exact trivial | exact h

theorem RenderError.IsFault.isMissingText_eq {e : RenderError} (h : e.IsFault) :
    e.isMissingText = false := by
  cases e <;> first | rfl | exact h.elim

theorem isOwn_of_failFast {m : MissingText} {e : RenderError} (h : failFast m = .error e) :
    e.IsOwn := by
  obtain rfl := Except.error.inj h
  trivial

theorem isOwn_of_substitute {m : MissingText} {e : RenderError} (h : substitute m = .error e) :
    e.IsOwn :=
  nomatch h

/-! ## Scripts -/

namespace Script

variable {bound : Nat} {α β : Type} {raises received : RenderError → Prop}

theorem candid_mono {received' : RenderError → Prop} (h : ∀ e, received e → received' e)
    (script : Script bound α) (hs : script.Candid raises received) :
    script.Candid raises received' := by
  induction script generalizing received received' with
  | done x => trivial
  | fail e => exact hs.imp_right (h e)
  | translate r l next ih => exact fun x => ih x (fun e => Or.imp_left (h e)) (hs x)
  | format v hv l o next ih => exact fun x => ih x (fun e => Or.imp_left (h e)) (hs x)
  | inspect next ih => exact fun view => ih view h (hs view)

theorem candid_bind {k : α → Script bound β} (script : Script bound α)
    (hs : script.Candid raises received) (hk : ∀ a, (k a).Candid raises received) :
    (script >>= k).Candid raises received := by
  show (script.bind k).Candid raises received
  induction script generalizing received with
  | done x => exact hk x
  | fail e => exact hs
  | translate r l next ih =>
    exact fun x => ih x (hs x) fun a => candid_mono (fun _ => Or.inl) (k a) (hk a)
  | format v hv l o next ih =>
    exact fun x => ih x (hs x) fun a => candid_mono (fun _ => Or.inl) (k a) (hk a)
  | inspect next ih => exact fun view => ih view (hs view) hk

theorem candid_pure (a : α) : (pure a : Script bound α).Candid raises received :=
  trivial

theorem candid_ofExcept {x : Except RenderError α} (h : ∀ e, x = .error e → raises e ∨ received e) :
    (ofExcept x : Script bound α).Candid raises received := by
  cases x with
  | ok a => trivial
  | error e => exact h e rfl

theorem candid_translated (r : Message) (l : String) :
    (translated r l : Script bound String).Candid raises received :=
  fun _ => candid_ofExcept fun _ h => Or.inr (Or.inr h)

theorem candid_translatedKey (key l : String) :
    (translatedKey key l : Script bound String).Candid raises received :=
  candid_translated _ l

theorem candid_formatted (v : Value) (h : v.size < bound) (l : String) (o : Options) :
    (formatted v h l o : Script bound String).Candid raises received :=
  fun _ => candid_ofExcept fun _ h => Or.inr (Or.inr h)

/-- Where every error may be raised, every script is candid. -/
theorem candid_of_forall (hall : ∀ e, raises e) (script : Script bound α) :
    script.Candid raises received := by
  induction script generalizing received with
  | done x => trivial
  | fail e => exact Or.inl (hall e)
  | translate r l next ih => exact fun x => ih x
  | format v hv l o next ih => exact fun x => ih x
  | inspect next ih => exact fun view => ih view

end Script

theorem Factory.candid_of_forall {raises : RenderError → Prop} (hall : ∀ e, raises e)
    (f : Factory) : f.Candid raises := by
  intro locale options
  cases f.create locale options with
  | ok formatter => exact fun v => Script.candid_of_forall hall _
  | error e => exact hall e

/-! ## The registry -/

namespace Registry

/-- Among candid factories, the formatter for a value is candid, and that there is none is an error
that may be raised. -/
theorem candid_formatterFor {raises : RenderError → Prop} (own : ∀ e, e.IsOwn → raises e)
    {r : Registry} (h : ∀ f ∈ r.factories, f.Candid raises) (v : Value) (l : String) (o : Options) :
    match (r.formatterFor v l o).1 with
    | .ok formatter => (formatter v).Candid raises fun _ => False
    | .error e => raises e := by
  unfold formatterFor
  cases hf : r.factoryFor v with
  | mk x q =>
    cases x with
    | error e =>
      rw [error_of_factoryFor hf]
      exact own _ trivial
    | ok f =>
      have hcandid := h f (mem_of_factoryFor hf) l o
      dsimp only
      cases hcreate : f.create l o with
      | error e => simpa [hcreate] using hcandid
      | ok formatter =>
        rw [hcreate] at hcandid
        exact hcandid v

end Registry

/-! ## Options -/

namespace Options

theorem isFault_of_check {formatter : String} {options : Options} {allowed : List String}
    {e : RenderError} (h : options.check formatter allowed = .error e) : e.IsFault := by
  unfold check at h
  split at h
  · cases h
  · cases h
    trivial

theorem isFault_of_text? {formatter name : String} {options : Options} {e : RenderError}
    (h : options.text? formatter name = .error e) : e.IsFault := by
  unfold text? at h
  split at h
  · cases h
  · cases h
  · cases h
    trivial

end Options

/-! ## The built-in formatters -/

namespace Factory

variable {received : RenderError → Prop}

theorem isFault_of_joinerOf {options : Options} {e : RenderError}
    (h : joinerOf options = .error e) : e.IsFault := by
  unfold joinerOf at h
  cases htext : options.text? "list" joinerOption with
  | error e' =>
    rw [htext] at h
    cases h
    exact Options.isFault_of_text? htext
  | ok found =>
    rw [htext] at h
    simp only [bind, Except.bind] at h
    split at h
    · cases h
    · cases h
    · cases h
    · cases h
      trivial

theorem isFault_of_applyFormat {spec : String} {v : Number} {e : RenderError}
    (h : applyFormat spec v = .error e) : e.IsFault := by
  unfold applyFormat at h
  split at h
  · cases h
    trivial
  · split at h
    · cases h
      trivial
    · cases h

theorem candid_text : text.Candid RenderError.IsOwn := by
  intro locale options
  cases hcheck : options.check "string" [] with
  | error e => simpa [text, hcheck, bind, Except.bind] using (Options.isFault_of_check hcheck).isOwn
  | ok _ =>
    simp only [text, hcheck, bind, Except.bind]
    intro v
    cases v <;> first | exact trivial | exact Or.inl trivial

theorem candid_message : message.Candid RenderError.IsOwn := by
  intro locale options
  cases hcheck : options.check "message" [] with
  | error e =>
    simpa [message, hcheck, bind, Except.bind] using (Options.isFault_of_check hcheck).isOwn
  | ok _ =>
    simp only [message, hcheck, bind, Except.bind]
    intro v
    cases v with
    | message r => exact Script.candid_translated r locale
    | _ => exact Or.inl trivial

theorem candid_itemTexts {bound : Nat} (locale : String) (items : List Value)
    (h : ∀ v ∈ items, v.size < bound) :
    (itemTexts locale items h).Candid RenderError.IsOwn received := by
  induction items with
  | nil => trivial
  | cons v rest ih =>
    refine Script.candid_bind _ (Script.candid_formatted v _ locale _) fun text => ?_
    exact Script.candid_bind _ (ih _) fun others => Script.candid_pure _

theorem candid_joined {bound : Nat} (locale : String) (joiner : Joiner) (texts : List String) :
    (joined locale joiner texts : Script bound String).Candid RenderError.IsOwn received := by
  match texts with
  | [] => trivial
  | [_] => trivial
  | [_, _] => exact Script.candid_bind _ (Script.candid_translatedKey _ locale) fun _ => trivial
  | _ :: _ :: _ :: _ =>
    refine Script.candid_bind _ (Script.candid_translatedKey _ locale) fun comma => ?_
    exact Script.candid_bind _ (Script.candid_translatedKey _ locale) fun _ => trivial

theorem candid_listFormatter (locale : String) (joiner : Joiner) (v : Value) :
    (listFormatter locale joiner v).Candid RenderError.IsOwn received := by
  match v with
  | .list [] => exact Script.candid_translatedKey _ locale
  | .list (_ :: _) =>
    exact Script.candid_bind _ (candid_itemTexts locale _ _) fun _ => candid_joined locale joiner _
  | .string _ | .message _ | .integer _ | .float _ | .custom .. => exact Or.inl trivial

theorem candid_list : list.Candid RenderError.IsOwn := by
  intro locale options
  cases hcheck : options.check "list" [joinerOption] with
  | error e => simpa [list, hcheck, bind, Except.bind] using (Options.isFault_of_check hcheck).isOwn
  | ok _ =>
    cases hjoiner : joinerOf options with
    | error e =>
      simpa [list, hcheck, hjoiner, bind, Except.bind] using (isFault_of_joinerOf hjoiner).isOwn
    | ok joiner =>
      simp only [list, hcheck, hjoiner, bind, Except.bind]
      exact fun v => candid_listFormatter locale joiner v

theorem candid_pluralText {bound : Nat} (lookup : PluralLookup) (base : String) (tag : PluralTag)
    (locale : String) :
    (pluralText lookup base tag locale : Script bound String).Candid
      RenderError.IsOwn received := by
  cases lookup with
  | byTag =>
    intro view
    dsimp only
    split
    · exact Script.candid_translatedKey _ locale
    · exact Script.candid_translatedKey _ locale
  | oneFirst =>
    rintro (e | text)
    · dsimp only
      split
      · exact Script.candid_translatedKey _ locale
      · exact Or.inr (Or.inr rfl)
    · trivial

theorem candid_numberText {bound : Nat} (locale : String) (n : Number) :
    (numberText locale n : Script bound String).Candid RenderError.IsOwn received :=
  Script.candid_bind _ (Script.candid_translatedKey _ locale) fun _ =>
    Script.candid_ofExcept fun _ h => Or.inl (isFault_of_applyFormat h).isOwn

theorem candid_numberFormatter (lookup : PluralLookup) (locale : String) (plural : Option String)
    (v : Value) : (numberFormatter lookup locale plural v).Candid RenderError.IsOwn received := by
  unfold numberFormatter
  cases v.number? with
  | none => exact Or.inl trivial
  | some n =>
    refine Script.candid_bind _ (candid_numberText locale n) fun text => ?_
    cases plural with
    | none => trivial
    | some base =>
      exact Script.candid_bind _ (candid_pluralText lookup base _ locale) fun _ => trivial

theorem candid_number (lookup : PluralLookup) : (number lookup).Candid RenderError.IsOwn := by
  intro locale options
  cases hcheck : options.check "number" [pluralOption] with
  | error e =>
    simpa [number, hcheck, bind, Except.bind] using (Options.isFault_of_check hcheck).isOwn
  | ok _ =>
    cases hplural : options.text? "number" pluralOption with
    | error e =>
      simpa [number, hcheck, hplural, bind, Except.bind] using
        (Options.isFault_of_text? hplural).isOwn
    | ok plural =>
      simp only [number, hcheck, hplural, bind, Except.bind]
      exact fun v => candid_numberFormatter lookup locale plural v

/-- All built-in factories are candid. -/
theorem builtins_candid (lookup : PluralLookup) :
    ∀ f ∈ builtins lookup, f.Candid RenderError.IsOwn := by
  intro f hf
  simp only [builtins, List.mem_cons, List.not_mem_nil, or_false] at hf
  rcases hf with rfl | rfl | rfl | rfl
  · exact candid_text
  · exact candid_message
  · exact candid_list
  · exact candid_number lookup

end Factory

end Parlance

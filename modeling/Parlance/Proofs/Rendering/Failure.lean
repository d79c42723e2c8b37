import Parlance.Proofs.Formatter.Candid
import Parlance.Proofs.Rendering.Contract

/-!
# How renderings fail

`Fails` describes every error with which a message may fail on a given stack, if formatters and the
strategy for missing texts are candid: the stack is too high, the message is already being rendered,
something in it raised an error, or a message inside it failed on the stack that has grown by this
message.

Result: `meets_translateWithin`, by induction on the room that is left. A message fails as `Fails`
says, ends on the stack it began on, and keeps every property of the stack that growing by a fresh
frame keeps and every property of the registry that looking for a formatter keeps.
-/

namespace Parlance

/-! ## Definitions -/

/-- Why the message `r` may fail in a locale on a stack. `limit` is how high the stack may grow and
`reported` the limit that an error names. -/
inductive Fails (raises : RenderError → Prop) (limit reported : Nat) :
    List Frame → Message → String → RenderError → Prop
  | tooDeep {st : List Frame} {r : Message} {l : String} :
      st.length = limit → Fails raises limit reported st r l (.maxDepthExceeded reported)
  | again {st : List Frame} {r : Message} {l : String} :
      st.length < limit → st.any (Frame.same ⟨r, l⟩) = true →
      Fails raises limit reported st r l (.cyclicReference (Run.keysTo ⟨r, l⟩ st))
  | raised {st : List Frame} {r : Message} {l : String} {e : RenderError} :
      st.length < limit → raises e → Fails raises limit reported st r l e
  | nested {st : List Frame} {r inner : Message} {l l' : String} {cause : RenderError} :
      st.length < limit → st.any (Frame.same ⟨r, l⟩) = false →
      Fails raises limit reported (⟨r, l⟩ :: st) inner l' cause →
      Fails raises limit reported st r l (.nested inner l' cause)

/-- An error that may come up while a stack is being worked on: one that was raised, or the wrapped
failure of a message on that stack. -/
def ComesUp (raises : RenderError → Prop) (limit reported : Nat) (st : List Frame)
    (e : RenderError) : Prop :=
  raises e ∨ ∃ r l cause, e = .nested r l cause ∧ Fails raises limit reported st r l cause

/-- An outcome is a result, or an error with `post`. -/
def OnError {α : Type} (post : RenderError → Prop) (x : Except RenderError α) : Prop :=
  ∀ e, x = .error e → post e

/-- All factories are candid, and the registry and the stack are as they may be. -/
def Discipline.candid (raises : RenderError → Prop) (known : Registry → Prop)
    (stack : List Frame → Prop) : Discipline where
  registry r := (∀ f ∈ r.factories, f.Candid raises) ∧ known r
  stack := stack

/-! ## Outcomes -/

namespace OnError

variable {α β : Type} {P : RenderError → Prop}

theorem ok (a : α) : OnError P (.ok a) :=
  fun _ he => nomatch he

theorem error {e : RenderError} (h : P e) : OnError P (.error e : Except RenderError α) := by
  intro e' he
  cases he
  exact h

theorem bind {x : Except RenderError α} {f : α → Except RenderError β} (hx : OnError P x)
    (hf : ∀ a, OnError P (f a)) : OnError P (x >>= f) := by
  cases x with
  | ok a => exact hf a
  | error e => exact error (hx e rfl)

theorem mapError {x : Except RenderError α} {f : RenderError → RenderError} (hx : OnError P x)
    (hf : ∀ e, P e → P (f e)) : OnError P (x.mapError f) := by
  intro e' he'
  obtain ⟨e, he, rfl⟩ := mapError_eq_error.1 he'
  exact hf e (hx e he)

end OnError

/-! ## Scripts -/

/-- A candid script fails only with an error that may be raised, or with an error that may come up
in its answers. -/
theorem Script.ensures_of_candid {bound : Nat} {α : Type} {raises received up : RenderError → Prop}
    {view : View} (hraises : ∀ e, raises e → up e) (script : Script bound α)
    (h : script.Candid raises received) (hreceived : ∀ e, received e → up e) :
    script.Ensures
      ⟨view, fun _ => True, fun _ _ => OnError up, fun _ => True, fun _ _ _ => OnError up⟩
      (OnError up) := by
  -- Every answer adds an error to those received, which may come up as well.
  induction script generalizing received with
  | done x => exact fun e he => nomatch he
  | fail e =>
    intro e' he'
    cases he'
    exact h.elim (hraises e) (hreceived e)
  | translate r l next ih =>
    refine ⟨trivial, fun x hx => ih x (h x) ?_⟩
    rintro e (he | he)
    · exact hreceived e he
    · exact hx e he
  | format v hv l o next ih =>
    refine ⟨trivial, fun x hx => ih x (h x) ?_⟩
    rintro e (he | he)
    · exact hreceived e he
    · exact hx e he
  | inspect next ih => exact ih view (h view) hreceived

/-! ## Requests -/

namespace Discipline

variable {d : Discipline} {st : List Frame} {s : Setting} {r : Message} {l : String}
  {nested : Message → String → Run String}

theorem isFault_of_resolve {reference : Reference} {e : RenderError}
    (h : reference.resolve r = .error e) : e.IsFault := by
  unfold Reference.resolve at h
  split at h
  all_goals
    split at h <;> cases h
    trivial

/-- The errors of a request are those of its look-up, of its references and of its values. -/
theorem meets_renderRequest {post : RenderError → Prop}
    (hlookup : ∀ e, s.catalog.lookup r l = .error e → post e) (hown : ∀ e, e.IsOwn → post e)
    (hformat : ∀ v o, d.Meets st (s.format nested v l o) (OnError post)) :
    d.Meets st (s.renderRequest nested r l) (OnError post) := by
  have hfragment : ∀ fragment,
      d.Meets st (s.renderFragment nested r l fragment) (OnError post) := by
    rintro (text | ⟨reference, options⟩)
    · exact meets_pure fun e he => nomatch he
    · refine meets_bind (P := (· = reference.resolve r)) (meets_ofExcept rfl)
        (fun v _ => hformat v options) ?_
      intro e he e' he'
      cases he'
      exact hown e (isFault_of_resolve he.symm).isOwn
  have hfragments : ∀ fragments,
      d.Meets st (s.renderFragments nested r l fragments) (OnError post) := by
    intro fragments
    induction fragments with
    | nil => exact meets_pure fun e he => nomatch he
    | cons fragment rest ih =>
      refine meets_bind (hfragment fragment) (fun text _ => ?_) fun _ => id
      exact meets_bind ih (fun others _ => meets_pure fun e he => nomatch he) fun _ => id
  refine meets_bind (P := (· = s.catalog.lookup r l)) (meets_ofExcept rfl)
    (fun compiled _ => hfragments compiled.fragments) ?_
  intro e he e' he'
  cases he'
  exact hlookup e he.symm

/-! ## Messages -/

/-- Every message that is translated on a stack, with room up to the limit, fails as `Fails` says,
ends on the stack it began on, and keeps a property of the stack that growing by a fresh frame
keeps. -/
theorem meets_translateWithin {raises : RenderError → Prop} {known : Registry → Prop}
    {stack : List Frame → Prop} {limit : Nat} (own : ∀ e, e.IsOwn → raises e)
    (hknown : ∀ r v l o, known r → known (r.formatterFor v l o).2)
    (hmissing : ∀ m e, s.catalog.missing m = .error e → raises e)
    (hgrow : ∀ st frame, st.length < limit → st.any (Frame.same frame) = false → stack st →
      stack (frame :: st))
    (room : Nat) (st : List Frame) (hroom : st.length + room = limit) (r : Message) (l : String) :
    (candid raises known stack).Meets st (s.translateWithin room r l)
      (OnError (Fails raises limit s.maxDepth st r l)) := by
  induction room generalizing st r l with
  | zero =>
    refine meets_fail fun e he => ?_
    cases he
    exact .tooDeep hroom
  | succ room ih =>
    have hlt : st.length < limit := by omega
    refine meets_translateWithin_succ ?_ fun hany hst => ⟨hgrow st _ hlt hany hst, ?_⟩
    · intro hany e he
      cases he
      exact .again hlt hany
    · -- What may come up above the frame makes the message itself fail.
      have hup : ∀ e, ComesUp raises limit s.maxDepth (⟨r, l⟩ :: st) e →
          Fails raises limit s.maxDepth st r l e := by
        rintro e (he | ⟨inner, l', cause, rfl, hcause⟩)
        · exact .raised hlt he
        · exact .nested hlt hany hcause
      have hnested : ∀ inner l',
          (candid raises known stack).Meets (⟨r, l⟩ :: st)
            (Setting.translateNested (s.translateWithin room) inner l')
            (OnError (ComesUp raises limit s.maxDepth (⟨r, l⟩ :: st))) := by
        intro inner l'
        refine meets_translateNested (ih (⟨r, l⟩ :: st) (by simp; omega) inner _)
          (fun text _ e he => nomatch he) ?_
        intro cause hcause e he
        cases he
        exact Or.inr ⟨inner, _, cause, rfl, hcause cause rfl⟩
      refine meets_renderRequest ?_ (fun e he => .raised hlt (own e he)) fun v o => ?_
      · intro e he
        unfold Catalog.lookup at he
        split at he
        · cases he
        · exact .raised hlt (hmissing _ e he)
      · refine Meets.mono (meets_format (a := ⟨_, fun _ => True, fun _ _ => OnError _,
          fun _ => True, fun _ _ _ => OnError _⟩) rfl (fun inner l' _ => hnested inner l') ?_
          v l o trivial) fun x hx e he => hup e (hx e he)
        intro w l' o' reg _ hreg
        refine ⟨⟨fun f hf => hreg.1 f (by simpa using hf), hknown reg w l' o' hreg.2⟩, ?_⟩
        have hformatter := Registry.candid_formatterFor own hreg.1 w l' o'
        cases hmade : (reg.formatterFor w l' o').1 with
        | ok formatter =>
          rw [hmade] at hformatter
          exact Script.ensures_of_candid (fun e => Or.inl) _ hformatter fun e => False.elim
        | error e =>
          rw [hmade] at hformatter
          intro e' he'
          cases he'
          exact Or.inl hformatter

end Discipline

end Parlance

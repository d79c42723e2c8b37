import Mathlib
import Parlance.Proofs.Message.Measure
import Parlance.Proofs.Rendering.Failure
import Parlance.Translator.Basic

/-!
# The call stack

Whatever factories a translator has and whatever their formatters do with the answers they get, the
stack of the messages that are being rendered is in order.

Results:
1. `stack_translateWithin`, `stack_translateNested`: translating a message leaves the stack as it
   was, with a text and with every failure.
2. `run_translateWithin`: the room that is left is what the depth allowed leaves above the stack, so
   a message is refused for its depth exactly on a full stack.
3. `call_stack_discipline`: at every moment of a translation the stack is at most as high as allowed
   and renders no two equal requests in one locale.
-/

namespace Parlance

/-! ## Definitions -/

/-- No two frames of a stack render equal requests in the same locale. -/
def Distinct (st : List Frame) : Prop :=
  st.Pairwise fun f g => ¬(f.locale = g.locale ∧ f.request.same g.request = true)

/-- Every progress of a translation, from the first to the last. -/
def Translator.moments (t : Translator) (r : Message) (locale : String) : List Progress :=
  (t.setting.translateWithin t.setting.maxDepth r locale).moments ⟨t.registry, []⟩

/-! ## Frames -/

/-- A frame that the stack does not refuse leaves all frames distinct. -/
theorem distinct_cons {st : List Frame} {frame : Frame} (h : st.any frame.same = false)
    (hst : Distinct st) : Distinct (frame :: st) := by
  refine List.pairwise_cons.2 ⟨fun g hg hsame => ?_, hst⟩
  have hrefused : st.any frame.same = true :=
    List.any_eq_true.2 ⟨g, hg, (Frame.same_iff frame g).2 hsame⟩
  rw [h] at hrefused
  cases hrefused

/-- The discipline that every progress satisfies: all errors may be raised. -/
def Discipline.any : Discipline :=
  .candid (fun _ => True) (fun _ => True) fun _ => True

theorem Discipline.any_holds (p : Progress) : Discipline.any.Holds p :=
  ⟨⟨fun f _ => Factory.candid_of_forall (fun _ => trivial) f, trivial⟩, trivial⟩

namespace Setting

/-! ## Calls leave the stack as it was -/

/-- Every call, with any room and on any stack, when every error may be raised. -/
theorem meets_call (s : Setting) (room : Nat) (st : List Frame) (r : Message) (l : String) :
    Discipline.any.Meets st (s.translateWithin room r l)
      (OnError (Fails (fun _ => True) (st.length + room) s.maxDepth st r l)) :=
  Discipline.meets_translateWithin (fun _ _ => trivial) (fun _ _ _ _ => id) (fun _ _ _ => trivial)
    (fun _ _ _ _ _ => trivial) room st rfl r l

/-- Translating a message leaves the stack as it was. -/
theorem stack_translateWithin (s : Setting) (room : Nat) (r : Message) (l : String)
    (p : Progress) : ((s.translateWithin room r l).run p).2.stack = p.stack :=
  (s.meets_call room p.stack r l p rfl (Discipline.any_holds p)).2.1

/-- Translating a message inside another leaves the stack as it was. -/
theorem stack_translateNested (s : Setting) (room : Nat) (r : Message) (l : String)
    (p : Progress) : ((translateNested (s.translateWithin room) r l).run p).2.stack = p.stack := by
  have h : Discipline.any.Meets p.stack
      (translateNested (s.translateWithin room) r l) fun _ => True :=
    Discipline.meets_translateNested (s.meets_call room p.stack r (targetLocale r l))
      (fun _ _ => trivial) fun _ _ => trivial
  exact (h p rfl (Discipline.any_holds p)).2.1

/-! ## The depth allowed -/

/-- On a full stack a message is refused for its depth, on a stack with an equal frame as a cycle,
and else it is rendered on the stack grown by its frame. -/
theorem run_translateWithin (s : Setting) (room : Nat) (r : Message) (l : String) (p : Progress)
    (h : p.stack.length + room = s.maxDepth) :
    (s.translateWithin room r l).run p =
      if s.maxDepth ≤ p.stack.length then (.error (.maxDepthExceeded s.maxDepth), p)
      else if p.stack.any (Frame.same ⟨r, l⟩) then
        (.error (.cyclicReference (Run.keysTo ⟨r, l⟩ p.stack)), p)
      else
        let (outcome, q) :=
          (s.renderRequest (translateNested (s.translateWithin (room - 1))) r l).run
            { p with stack := ⟨r, l⟩ :: p.stack }
        (outcome, { q with stack := q.stack.drop 1 }) := by
  cases room with
  | zero =>
    rw [if_pos (by omega)]
    rfl
  | succ room =>
    rw [if_neg (by omega), translateWithin]
    cases hany : p.stack.any (Frame.same ⟨r, l⟩) with
    | true => exact Run.run_bind_of_error (Run.run_enter_again hany)
    | false =>
      rw [Run.run_bind_of_ok (Run.run_enter_fresh hany), Run.run_outcome_leave]
      rfl

end Setting

/-! ## Every moment -/

/-- Translating a message, nested or not, on any stack and with any outcome, leaves the stack as it
was; and at every moment of a translation the stack is at most as high as allowed, with no two
frames that render equal requests in the same locale. -/
theorem call_stack_discipline (t : Translator) :
    (∀ room r l p,
      ((t.setting.translateWithin room r l).run p).2.stack = p.stack ∧
      ((Setting.translateNested (t.setting.translateWithin room) r l).run p).2.stack = p.stack) ∧
    ∀ r l, ∀ p ∈ t.moments r l,
      p.stack.length ≤ t.setting.maxDepth ∧
      p.stack.Pairwise fun f g => ¬(f.locale = g.locale ∧ f.request.same g.request = true) := by
  refine ⟨fun room r l p => ⟨t.setting.stack_translateWithin room r l p,
    t.setting.stack_translateNested room r l p⟩, fun r l p hp => ?_⟩
  have hmeets : (Discipline.candid (fun _ => True) (fun _ => True)
      fun st => st.length ≤ t.setting.maxDepth ∧ Distinct st).Meets []
      (t.setting.translateWithin t.setting.maxDepth r l)
      (OnError (Fails (fun _ => True) t.setting.maxDepth t.setting.maxDepth [] r l)) :=
    Discipline.meets_translateWithin (fun _ _ => trivial) (fun _ _ _ _ => id)
      (fun _ _ _ => trivial) (fun st frame hlt hany hst => ⟨hlt, distinct_cons hany hst.2⟩)
      t.setting.maxDepth [] (Nat.zero_add _) r l
  have hstart := hmeets ⟨t.registry, []⟩ rfl
    ⟨(Discipline.any_holds ⟨t.registry, []⟩).1, Nat.zero_le _, List.Pairwise.nil⟩
  exact (hstart.1 p hp).2

/-- A translator that allows two messages on the stack. -/
def nesting : Translator where
  setting :=
    { catalog :=
        ⟨(Store.empty.insert "en" "inner" (Compiled.ofText "text")).insert "en" "outer"
          ⟨[.argument (.position 0) .none]⟩, fun l => [l], failFast⟩
      defaultLocale := "en"
      maxDepth := 2 }
  registry := Registry.builtins .byTag

/-- A message with another one as its argument. -/
def outerRequest : Message :=
  (Request.ofKey "outer").arg (.message (Request.ofKey "inner"))

theorem call_stack_of_nesting :
    ∃ p ∈ nesting.moments outerRequest "en", p.stack.length = 2 ∧
      p.stack.length ≤ nesting.setting.maxDepth ∧
      p.stack.Pairwise fun f g => ¬(f.locale = g.locale ∧ f.request.same g.request = true) := by
  have hmax : ((nesting.moments outerRequest "en").map fun p => p.stack.length).max? = some 2 := by
    cbv
  obtain ⟨p, hp, hheight⟩ := List.mem_map.1 (List.max?_mem hmax)
  exact ⟨p, hp, hheight, (call_stack_discipline nesting).2 outerRequest "en" p hp⟩

end Parlance

import Parlance.Proofs.Evaluation.Translation
import Parlance.Proofs.Rendering.Frames

/-!
# The depth allowed is only a limit

A greater depth is of use only where a smaller one was exceeded. No formatter takes an exceeded
depth for a missing text, so that it ends a translation wherever it occurs, and up to there two
translations that are allowed different depths do the same.

Results:
1. `evaluateWithin_agreeing`: two evaluations with different numbers of levels agree, unless the one
   with fewer exceeds them. The proof is by induction on these.
2. `depth_is_only_a_limit`: so do two translations that are allowed different depths.
-/

namespace Parlance

/-! ## Definitions -/

/-- The depth allowed was exceeded, by the message itself or by one nested in it. -/
def RenderError.IsExceeded (e : RenderError) : Prop :=
  ∃ depth, e.root = .maxDepthExceeded depth

/-- The same translator with another depth allowed. -/
def Translator.withDepth (t : Translator) (depth : Nat) : Translator :=
  { t with setting := { t.setting with maxDepth := depth } }

/-! ## Evaluations -/

theorem RenderError.IsExceeded.isMissingText_eq {e : RenderError} (h : e.IsExceeded) :
    e.isMissingText = false := by
  obtain ⟨depth, hdepth⟩ := h
  refine Bool.eq_false_iff.2 fun hmissing => ?_
  obtain ⟨_, _, _, _, hroot⟩ := e.isMissingText_iff.1 hmissing
  cases hdepth.symm.trans hroot

namespace Evaluation

variable {c : Catalog} {lookup : Factory.PluralLookup}

theorem evaluateWithin_agreeing {room room' : Nat} (hle : room ≤ room') (maxDepth maxDepth' : Nat)
    (r : Message) (l : String) :
    agreeing RenderError.IsExceeded String (evaluateWithin c lookup maxDepth room r l)
      (evaluateWithin c lookup maxDepth' room' r l) := by
  induction room generalizing room' r l with
  | zero => exact Or.inr ⟨_, rfl, maxDepth, rfl⟩
  | succ room ih =>
    obtain ⟨left, rfl⟩ : ∃ left, room' = left + 1 := ⟨room' - 1, by omega⟩
    have hinner : ∀ m around, agreeing RenderError.IsExceeded String
        (nestedText m around (evaluateWithin c lookup maxDepth room m around))
        (nestedText m around (evaluateWithin c lookup maxDepth' left m around)) :=
      fun m around => agreeing_nestedText (fun _ _ _ => id) m around
        (ih (Nat.le_of_succ_le_succ hle) m around)
    exact requestText_related (composes_agreeing fun _ _ => RenderError.IsExceeded.isMissingText_eq)
      (Or.inl rfl) (fun _ => rfl) (fun key _ => hinner _ _) fun v _ m _ _ => hinner m _

end Evaluation

/-! ## Translations -/

/-- Take two translators with the built-in factories and the same catalog, of which the second
allows at least the depth that the first does. Unless the first fails because its depth is exceeded,
they translate a request to the same text or fail with the same error. -/
theorem depth_is_only_a_limit {t u : Translator} {lookup : Factory.PluralLookup}
    (ht : t.registry.Arises lookup) (hu : u.registry.Arises lookup)
    (hcatalog : u.catalog = t.catalog) (hle : t.setting.maxDepth ≤ u.setting.maxDepth) (r : Message)
    (l : String)
    (hlimit : ∀ e, (t.translateTo r l).1 = .error e → ∀ depth, e.root ≠ .maxDepthExceeded depth) :
    (u.translateTo r l).1 = (t.translateTo r l).1 := by
  rw [(translateTo_eq_evaluateWithin ht.isBuiltin r l).1] at hlimit ⊢
  rw [(translateTo_eq_evaluateWithin hu.isBuiltin r l).1, hcatalog]
  rcases @Evaluation.evaluateWithin_agreeing t.catalog lookup _ _ hle t.setting.maxDepth
    u.setting.maxDepth r l with hsame | ⟨cause, hcause, depth, hroot⟩
  · rw [hsame]
  · exact absurd hroot (hlimit _ (mapError_eq_error.2 ⟨cause, hcause, rfl⟩) depth)

/-- A translator that allows three messages on the stack. -/
def bracketing : Translator where
  setting :=
    { catalog :=
        ⟨((Store.empty.insert "en" "show"
            ⟨[.text "[", .argument (.position 0) .none, .text "]"]⟩).insert
          "en" "list.and" (Compiled.ofText " and ")).insert
          "en" "number.int" (Compiled.ofText "%03d"),
          fun l => [l], failFast⟩
      defaultLocale := "en"
      maxDepth := 3 }
  registry := Registry.builtins .byTag

/-- A text and a message in a list. The number in the inner message needs all three. -/
def bracketed : Message :=
  (Request.ofKey "show").arg
    (.list [.string "a", .message ((Request.ofKey "show").arg (.integer 7))])

/-- Two messages on the stack are too few for the number in the inner message. Three are enough, and
with seven nothing changes, neither for this text nor for a failure of another kind. -/
theorem limit_of_bracketing :
    (∃ e, ((bracketing.withDepth 2).translateTo bracketed "en").1 = .error e ∧
      e.root = .maxDepthExceeded 2) ∧
    (bracketing.translateTo bracketed "en").1 = .ok "[a and [007]]" ∧
    ((bracketing.withDepth 7).translateTo bracketed "en").1 = .ok "[a and [007]]" ∧
    ∃ e, (bracketing.translateTo (Request.ofKey "show") "en").1 = .error e ∧
      ((bracketing.withDepth 7).translateTo (Request.ofKey "show") "en").1 = .error e := by
  have htext : (bracketing.translateTo bracketed "en").1 = .ok "[a and [007]]" := by cbv
  have hexceeded : ((bracketing.withDepth 2).translateTo bracketed "en").1 =
      .error ⟨bracketed, "en", .nested ((Request.ofKey "show").arg (.integer 7)) "en"
        (.nested (Request.ofKey "number.int") "en" (.maxDepthExceeded 2))⟩ := by cbv
  have hfailed : (bracketing.translateTo (Request.ofKey "show") "en").1 =
      .error ⟨Request.ofKey "show", "en", .argumentIndex 0 0⟩ := by cbv
  have hsame := @depth_is_only_a_limit bracketing (bracketing.withDepth 7) .byTag .fresh .fresh rfl
    (by decide)
  refine ⟨⟨_, hexceeded, rfl⟩, htext, ?_, _, hfailed, ?_⟩
  · rw [hsame bracketed "en" ?_, htext]
    intro e he
    rw [htext] at he
    cases he
  · rw [hsame (Request.ofKey "show") "en" ?_, hfailed]
    intro e he depth hroot
    rw [hfailed] at he
    cases he
    cases hroot

end Parlance

import Parlance.Proofs.Evaluation.Translation
import Parlance.Proofs.Rendering.Failure

/-!
# No false cycles

With the built-in factories no message is taken for a cycle: the messages inside a message are
lighter than itself and all around it, and so are the words and formats of the catalog, which have
no arguments at all, whatever their patterns are. The evaluation does not look for cycles, so that a
cycle could only come from the strategy for missing texts.

Results:
1. `onError_evaluateWithin`: every error of the evaluation is one that the formatters raise, one of
   the strategy for missing texts, or an exceeded depth, wrapped or not.
2. `no_false_cycles`: so no translation fails with a cycle.
-/

namespace Parlance

/-! ## Errors -/

theorem RenderError.IsOwn.root_ne_cyclicReference {e : RenderError} (h : e.IsOwn)
    (chain : List String) : e.root ≠ .cyclicReference chain := by
  rw [h.root_eq]
  rintro rfl
  cases h

namespace Evaluation

/-! ## Evaluations -/

variable {P : RenderError → Prop}

theorem respects_failing (hown : ∀ e, e.IsOwn → P e) (hdepth : ∀ d, P (.maxDepthExceeded d))
    (hnested : ∀ r l cause, P cause → P (.nested r l cause)) (lookup : Factory.PluralLookup) :
    (failing P).Respects lookup where
  toComposes := composes_failing (fun _ he => hown _ he.isOwn) lookup
  depth d := .error (hdepth d)
  nested r l _ _ hx := .mapError hx (hnested r l)

/-- Every error of the evaluation is one that the formatters raise, one of the strategy for missing
texts, or an exceeded depth, wrapped or not. -/
theorem onError_evaluateWithin {c : Catalog} {lookup : Factory.PluralLookup}
    (hown : ∀ e, e.IsOwn → P e) (hmissing : ∀ m, OnError P (c.missing m))
    (hdepth : ∀ d, P (.maxDepthExceeded d))
    (hnested : ∀ r l cause, P cause → P (.nested r l cause)) (maxDepth room : Nat) (r : Message)
    (l : String) : OnError P (evaluateWithin c lookup maxDepth room r l) := by
  have hcovers : Covers (failing P) c c fun _ _ => True :=
    ⟨fun r l _ => onError_lookup hmissing r l, fun _ _ _ _ => rfl, fun _ _ _ _ => trivial,
      fun _ _ _ _ _ _ _ => trivial⟩
  exact evaluateWithin_related (respects_failing hown hdepth hnested lookup) hcovers maxDepth room r
    l trivial

end Evaluation

/-! ## Translations -/

/-- No translation with the built-in factories fails with a cycle, whatever the catalog holds,
unless the strategy for missing texts fails with one. -/
theorem no_false_cycles {t : Translator} {lookup : Factory.PluralLookup}
    (h : t.registry.Arises lookup)
    (hmissing : ∀ m e, t.catalog.missing m = .error e → ∀ chain, e.root ≠ .cyclicReference chain)
    (r : Message) :
    (∀ l e, (t.translateTo r l).1 = .error e → ∀ chain, e.root ≠ .cyclicReference chain) ∧
    ∀ l e, (t.translate r l).1 = .error e → ∀ chain, e.root ≠ .cyclicReference chain := by
  have hto : ∀ l e, (t.translateTo r l).1 = .error e →
      ∀ chain, e.root ≠ .cyclicReference chain := by
    intro l e he
    have herror : OnError (fun e => ∀ chain, e.root ≠ .cyclicReference chain)
        (Evaluation.evaluateWithin t.catalog lookup t.setting.maxDepth t.setting.maxDepth r l) :=
      Evaluation.onError_evaluateWithin (fun _ => RenderError.IsOwn.root_ne_cyclicReference)
        hmissing (fun _ _ hroot => nomatch hroot) (fun _ _ _ hcause => hcause) _ _ r l
    rw [(translateTo_eq_evaluateWithin h.isBuiltin r l).1] at he
    obtain ⟨cause, hcause, rfl⟩ := mapError_eq_error.1 he
    exact herror cause hcause
  exact ⟨hto, fun l => hto _⟩

/-- A purchase in a purchase. The inner one lacks its argument. -/
def purchaseTwice : Message :=
  (Request.ofKey "buy").arg (.list [.message twoCars, .message (Request.ofKey "buy")])

theorem no_false_cycle_in_purchaseTwice :
    shop.registry.Arises .byTag ∧
    (∀ m e, shop.catalog.missing m = .error e → ∀ chain, e.root ≠ .cyclicReference chain) ∧
    ∃ e, (shop.translateTo purchaseTwice "de_AT").1 = .error e ∧
      ∀ chain, e.root ≠ .cyclicReference chain := by
  have hmissing : ∀ m e, shop.catalog.missing m = .error e →
      ∀ chain, e.root ≠ .cyclicReference chain :=
    fun m e he => (isOwn_of_failFast he).root_ne_cyclicReference
  have hfailed : (shop.translateTo purchaseTwice "de_AT").1 =
      .error ⟨purchaseTwice, "de_AT",
        .nested (Request.ofKey "buy") "de_AT" (.argumentIndex 0 0)⟩ := by cbv
  exact ⟨.fresh, hmissing, _, hfailed, (no_false_cycles .fresh hmissing _).1 "de_AT" _ hfailed⟩

end Parlance

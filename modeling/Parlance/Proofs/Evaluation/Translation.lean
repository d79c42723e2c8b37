import Mathlib
import Parlance.Proofs.Evaluation.Agreement
import Parlance.Proofs.Evaluation.Related
import Parlance.Translator.Basic

/-!
# Translations agree with the evaluation

The only trace that a translation leaves in a translator is what the registry remembers. With the
built-in factories this is right after every translation, so the next one agrees with the evaluation
again.

Results:
1. `translateTo_eq_evaluateWithin`: a translation gives what the evaluation within the depth allowed
   gives.
2. `Registry.Arises.isBuiltin`: what earlier translations leave in the registry is right.
3. `translateTo_eq_evaluate`: where the depth allowed is more than the request is high, it gives
   what the evaluation without any limit gives.
-/

namespace Parlance

/-! ## Definitions -/

/-- The registries that arise with the built-in factories: the fresh one, and what looking for a
formatter or a translation, in whatever setting, leaves of one. -/
inductive Registry.Arises (lookup : Factory.PluralLookup) : Registry → Prop
  | fresh : Arises lookup (Registry.builtins lookup)
  | found {r : Registry} (v : Value) (l : String) (o : Options) :
      Arises lookup r → Arises lookup (r.formatterFor v l o).2
  | translated {t : Translator} (r : Message) (l : String) :
      Arises lookup t.registry → Arises lookup (t.translateTo r l).2.registry

/-! ## Translations -/

/-- A translation gives what the evaluation within the depth allowed gives, and leaves the registry
as it may be. -/
theorem translateTo_eq_evaluateWithin {t : Translator} {lookup : Factory.PluralLookup}
    (h : t.registry.IsBuiltin lookup) (r : Message) (l : String) :
    (t.translateTo r l).1 =
      (Evaluation.evaluateWithin t.catalog lookup t.setting.maxDepth t.setting.maxDepth r
        l).mapError (TranslateError.mk r l) ∧
    (t.translateTo r l).2.registry.IsBuiltin lookup := by
  have hmeets := Evaluation.meets_evaluateWithin t.setting lookup t.setting.maxDepth [] r l
    (fun _ hf => nomatch hf)
  obtain ⟨x, rfl, houtcome, _, hbuiltin⟩ := Discipline.translateTo_of_meets hmeets h trivial
  exact ⟨houtcome, hbuiltin⟩

theorem Registry.Arises.isBuiltin {lookup : Factory.PluralLookup} {r : Registry}
    (h : r.Arises lookup) : r.IsBuiltin lookup := by
  induction h with
  | fresh => exact isBuiltin_builtins lookup
  | found v l o _ ih => exact (ih.formatterFor v l o).1
  | translated r l _ ih => exact (translateTo_eq_evaluateWithin ih r l).2

/-- With the built-in factories, whatever earlier translations have left in the registry, and where
the depth allowed is more than the request is high, a translation gives what the evaluation gives,
which knows neither stack nor depth nor registry. -/
theorem translateTo_eq_evaluate {t : Translator} {lookup : Factory.PluralLookup}
    (h : t.registry.Arises lookup) (r : Message) (l : String)
    (hdepth : r.height + 1 ≤ t.setting.maxDepth) :
    (t.translateTo r l).1 =
      (Evaluation.evaluate t.catalog lookup r l).mapError (TranslateError.mk r l) := by
  rw [(translateTo_eq_evaluateWithin h.isBuiltin r l).1]
  rw [Evaluation.evaluateWithin_eq_evaluate hdepth]

/-! ## A purchase -/

/-- A shop with English messages and German ones before them. It allows three messages on the
stack. -/
def shop : Translator where
  setting :=
    { catalog :=
        ⟨(Store.empty.insertAll "en"
            [("goods", ⟨[.argument (.name "count") (.ofMembers [("plural", .string "cars")])]⟩),
              ("cars.one", .ofText "car"), ("cars.other", .ofText "cars"),
              ("number.int", .ofText "%d"), ("list.or", .ofText " or ")]).insertAll "de"
            [("buy", ⟨[.text "Kaufe ",
                .argument (.position 0) (.ofMembers [("type", .string "or")]), .text "."]⟩),
              ("list.or", .ofText " oder ")],
          Locale.truncatingChain "en", failFast⟩
      defaultLocale := "en"
      maxDepth := 3 }
  registry := Registry.builtins .byTag

/-- Two cars, named in English wherever they stand. -/
def twoCars : Message :=
  ((Request.ofKey "goods" : Message).bind "count" (.integer 2)).withLocale "en"

/-- Alternatives, of which one is a text. The number of cars needs all three messages. -/
def purchase : Message :=
  (Request.ofKey "buy").arg (.list [.message twoCars, .string "Brot"])

/-- The shop after a translation of the cars alone. -/
def shopAgain : Translator :=
  (shop.translateTo twoCars "fr").2

theorem evaluate_purchase :
    shopAgain.registry.Arises .byTag ∧
    shopAgain.registry.resolved.length = 1 ∧
    purchase.height + 1 = shopAgain.setting.maxDepth ∧
    (shopAgain.translateTo purchase "de_AT").1 = .ok "Kaufe 2 cars oder Brot." ∧
    Evaluation.evaluate shopAgain.catalog .byTag purchase "de_AT" =
      .ok "Kaufe 2 cars oder Brot." := by
  have harises : shopAgain.registry.Arises .byTag :=
    .translated (t := shop) twoCars "fr" .fresh
  have hdepth : purchase.height + 1 = shopAgain.setting.maxDepth := by cbv
  have htext : (shopAgain.translateTo purchase "de_AT").1 = .ok "Kaufe 2 cars oder Brot." := by
    cbv
  refine ⟨harises, by cbv, hdepth, htext, ?_⟩
  have hevaluate := translateTo_eq_evaluate harises purchase "de_AT" (Nat.le_of_eq hdepth)
  rw [htext] at hevaluate
  exact mapError_eq_ok.1 hevaluate.symm

end Parlance

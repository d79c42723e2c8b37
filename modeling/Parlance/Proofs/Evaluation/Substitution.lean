import Parlance.Proofs.Catalog.Contents
import Parlance.Proofs.Evaluation.Translation

/-!
# Substitution for missing texts

A strict translator fails on a missing text, a lenient one renders a substitute in its place. Where
plural texts are found by the tag, the two search for the same messages in the same order up to the
first that is missing, because no error leads to a second search. There the strict one ends, and the
lenient one goes on with a text that may still lead to any other failure.

Results:
1. `respects_lenient`: the rules of the evaluation respect the pairing of a strict outcome with a
   lenient one.
2. `substitution_only_for_missing`: the two translators differ in nothing but missing texts.
-/

namespace Parlance

/-! ## Definitions -/

/-- The same translator with another strategy for missing texts. -/
def Translator.withMissing (t : Translator) (missing : MissingTextStrategy) : Translator :=
  t.withCatalog { t.catalog with missing := missing }

namespace Evaluation

/-- The second outcome is never a missing text, and it is the first one unless that is a missing
text. -/
def lenient : Pairing :=
  fun _ x y => OnError (fun e => e.isMissingText = false) y ∧
    (y = x ∨ ∃ e, x = .error e ∧ e.isMissingText = true)

/-! ## The pairing -/

theorem lenient_self {α : Type} {x : Except RenderError α}
    (h : OnError (fun e => e.isMissingText = false) x) : lenient α x x :=
  ⟨h, Or.inl rfl⟩

theorem lenient_bind {α β : Type} {x y : Except RenderError α} {f g : α → Except RenderError β}
    (h : lenient α x y) (hk : ∀ a, lenient β (f a) (g a)) :
    lenient β (x >>= f) (y >>= g) :=
  ⟨.bind h.1 fun a => (hk a).1, agreeing_bind h.2 fun a => (hk a).2⟩

theorem lenient_nestedText (r : Message) (l : String) {x y : Except RenderError String}
    (h : lenient String x y) : lenient String (nestedText r l x) (nestedText r l y) :=
  ⟨.mapError h.1 fun _ he => he, agreeing_nestedText (fun _ _ _ he => he) r l h.2⟩

/-- The rules respect the pairing, as long as no plural text is looked for after another has been
missed. -/
theorem respects_lenient : lenient.Respects .byTag where
  ok a := lenient_self (.ok a)
  fault he := lenient_self (.error he.isMissingText_eq)
  depth _ := lenient_self (.error rfl)
  bind := lenient_bind
  nested r l _ _ h := lenient_nestedText r l h
  plural h := nomatch h

/-- Where a message is there, both find it. Where none is, one fails with a missing text and the
other has a substitute. -/
theorem lenient_lookup (c : Catalog) (r : Message) (l : String) :
    lenient Compiled ({ c with missing := failFast }.lookup r l)
      ({ c with missing := substitute }.lookup r l) := by
  cases hfind : c.find? r.key l with
  | some compiled =>
    rw [Catalog.lookup_of_some (c := { c with missing := failFast }) hfind,
      Catalog.lookup_of_some (c := { c with missing := substitute }) hfind]
    exact lenient_self (.ok compiled)
  | none =>
    rw [Catalog.lookup_of_none (c := { c with missing := failFast }) hfind,
      Catalog.lookup_of_none (c := { c with missing := substitute }) hfind]
    exact ⟨.ok _, Or.inr ⟨_, rfl, rfl⟩⟩

theorem covers_lenient (c : Catalog) :
    Covers lenient { c with missing := failFast } { c with missing := substitute }
      fun _ _ => True where
  lookup r l _ := lenient_lookup c r l
  contains _ _ _ _ := rfl
  word _ _ _ _ := trivial
  inner _ _ _ _ _ _ _ := trivial

/-- What the pairing says of two outcomes, wrapped as translations wrap them. -/
theorem lenient_translated {x y : Except RenderError String} (h : lenient String x y) (r : Message)
    (l : String) :
    (∀ text, x.mapError (TranslateError.mk r l) = .ok text →
      y.mapError (TranslateError.mk r l) = .ok text) ∧
    (∀ e, x.mapError (TranslateError.mk r l) = .error e → e.isMissingText = false →
      y.mapError (TranslateError.mk r l) = .error e) ∧
    ∀ e, y.mapError (TranslateError.mk r l) = .error e → e.isMissingText = false := by
  obtain ⟨hcandid, hsame⟩ := h
  refine ⟨fun text htext => ?_, fun e he hmissing => ?_, fun e he => ?_⟩
  · rcases hsame with rfl | ⟨cause, rfl, _⟩
    · exact htext
    · cases htext
  · rcases hsame with rfl | ⟨cause, rfl, hcause⟩
    · exact he
    · obtain rfl := Except.error.inj he
      exact absurd (hcause.symm.trans hmissing) (by decide)
  · obtain ⟨cause, hcause, rfl⟩ := mapError_eq_error.1 he
    exact hcandid cause hcause

end Evaluation

/-! ## Translations -/

/-- With the built-in factories, and where plural texts are found by the tag, the strategy for
missing texts matters only when a text is missing: a text that is rendered by failing on missing
texts is also rendered by substituting for them, an error that is no missing text is the same, and
no translation that substitutes fails with a missing text. -/
theorem substitution_only_for_missing {t : Translator} (h : t.registry.Arises .byTag) (r : Message)
    (l : String) :
    (∀ text, ((t.withMissing failFast).translateTo r l).1 = .ok text →
      ((t.withMissing substitute).translateTo r l).1 = .ok text) ∧
    (∀ e, ((t.withMissing failFast).translateTo r l).1 = .error e → e.isMissingText = false →
      ((t.withMissing substitute).translateTo r l).1 = .error e) ∧
    ∀ e, ((t.withMissing substitute).translateTo r l).1 = .error e → e.isMissingText = false := by
  have hstrict := (translateTo_eq_evaluateWithin (t := t.withMissing failFast) h.isBuiltin r l).1
  have hlenient :=
    (translateTo_eq_evaluateWithin (t := t.withMissing substitute) h.isBuiltin r l).1
  have hpair := Evaluation.evaluateWithin_related Evaluation.respects_lenient
    (Evaluation.covers_lenient t.catalog) t.setting.maxDepth t.setting.maxDepth r l trivial
  rw [hstrict, hlenient]
  exact Evaluation.lenient_translated hpair r l

/-! ## A number without a format -/

/-- A translator that can show two arguments but has no formats for numbers. -/
def formatless : Translator where
  setting :=
    { catalog :=
        ⟨Store.empty.insert "en" "show"
          ⟨[.argument (.position 0) .none, .text ": ", .argument (.position 1) .none]⟩,
          fun l => [l], failFast⟩
      defaultLocale := "en"
      maxDepth := 3 }
  registry := Registry.builtins .byTag

/-- A request of `formatless` with some arguments. -/
def shown (args : List Value) : Message :=
  { key := "show", args := args }

/-- Two texts are shown by both. A missing argument fails both. The format that a number lacks fails
the strict one only, and the lenient one then fails on the missing argument. -/
theorem substitution_in_formatless :
    formatless.registry.Arises .byTag ∧
    ((formatless.withMissing failFast).translateTo (shown [.string "a", .string "b"]) "en").1 =
      .ok "a: b" ∧
    ((formatless.withMissing substitute).translateTo (shown [.string "a", .string "b"]) "en").1 =
      .ok "a: b" ∧
    ((formatless.withMissing failFast).translateTo (shown [.string "a"]) "en").1 =
      .error ⟨shown [.string "a"], "en", .argumentIndex 1 1⟩ ∧
    ((formatless.withMissing substitute).translateTo (shown [.string "a"]) "en").1 =
      .error ⟨shown [.string "a"], "en", .argumentIndex 1 1⟩ ∧
    (∃ e, ((formatless.withMissing failFast).translateTo (shown [.integer 7]) "en").1 = .error e ∧
      e.isMissingText = true) ∧
    ∃ e, ((formatless.withMissing substitute).translateTo (shown [.integer 7]) "en").1 = .error e ∧
      e.isMissingText = false := by
  have hsubstitution := @substitution_only_for_missing formatless .fresh
  have htexts : ((formatless.withMissing failFast).translateTo
      (shown [.string "a", .string "b"]) "en").1 = .ok "a: b" := by cbv
  have hindex : ((formatless.withMissing failFast).translateTo (shown [.string "a"]) "en").1 =
      .error ⟨shown [.string "a"], "en", .argumentIndex 1 1⟩ := by cbv
  have hstrict : ((formatless.withMissing failFast).translateTo (shown [.integer 7]) "en").1 =
      .error ⟨shown [.integer 7], "en",
        .nested (Request.ofKey "number.int") "en" (.missingText "number.int" "en" ["en"] [])⟩ := by
    cbv
  have hlenient : ((formatless.withMissing substitute).translateTo (shown [.integer 7]) "en").1 =
      .error ⟨shown [.integer 7], "en", .argumentIndex 1 1⟩ := by cbv
  exact ⟨.fresh, htexts, (hsubstitution _ _).1 _ htexts, hindex,
    (hsubstitution _ _).2.1 _ hindex rfl, ⟨_, hstrict, rfl⟩, _, hlenient,
    (hsubstitution _ _).2.2 _ hlenient⟩

end Parlance

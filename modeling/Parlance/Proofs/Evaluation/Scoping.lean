import Parlance.Proofs.Evaluation.Translation

/-!
# The locale of every message

A translation is told its locale, and what its own request prefers does not matter. Below it the
preference counts: a message inside another is translated to the locale it prefers, else to the one
of the message around it. The words and formats of the catalog prefer no locale, so that they are
always looked up where they are needed. The frames of an error tell all these locales.

Results:
1. `scoped_evaluateWithin`: on the way to the cause of a failure, every message is translated to the
   locale that is its own in this sense. The proof is by induction on the levels.
2. `evaluateWithin_withLocale`: in a given locale a message evaluates to the same, whatever locale
   it prefers.
3. `locale_scoping`: both for translations.
-/

namespace Parlance

/-! ## Definitions -/

/-- Every message on the way to the cause is translated to the locale it prefers, else to the one of
the message around it. The outermost of them is inside a message in the locale `around`. -/
def RenderError.Scoped (around : String) : RenderError → Prop
  | .nested r l cause => l = Setting.targetLocale r around ∧ cause.Scoped l
  | _ => True

/-- The locale of a frame is the one its request prefers, else the one of the frame around it. -/
def Inherits (around frame : Message × String) : Prop :=
  frame.2 = frame.1.locale.getD around.2

/-! ## Errors -/

namespace RenderError

theorem IsOwn.scoped {e : RenderError} (h : e.IsOwn) (around : String) : e.Scoped around := by
  cases e with
  | nested r l cause => cases h
  | _ => trivial

/-- The frames of a scoped error, behind the frame they are inside of. -/
theorem Scoped.isChain {e : RenderError} {r : Message} {l : String} (h : e.Scoped l) :
    ((r, l) :: e.frames).IsChain Inherits := by
  induction e generalizing r l with
  | nested inner l' cause ih =>
    obtain ⟨hlocale, hcause⟩ := h
    exact List.isChain_cons_cons.2 ⟨hlocale, ih hcause⟩
  | _ => exact List.isChain_singleton _

end RenderError

namespace Evaluation

variable {c : Catalog} {lookup : Factory.PluralLookup}

theorem scoped_nestedText {m : Message} {around : String} {x : Except RenderError String}
    (h : OnError (RenderError.Scoped (Setting.targetLocale m around)) x) :
    OnError (RenderError.Scoped around) (nestedText m (Setting.targetLocale m around) x) := by
  intro e he
  obtain ⟨cause, hcause, rfl⟩ := mapError_eq_error.1 he
  exact ⟨rfl, h cause hcause⟩

/-- Everything that a request needs is evaluated in the locale of the request, unless it prefers
another. -/
theorem scoped_evaluateWithin (hmissing : ∀ m e, c.missing m = .error e → e.IsOwn)
    (maxDepth room : Nat) (r : Message) (l : String) :
    OnError (RenderError.Scoped l) (evaluateWithin c lookup maxDepth room r l) := by
  induction room generalizing r l with
  | zero => exact .error trivial
  | succ room ih =>
    have hcomposes : (failing (RenderError.Scoped l)).Composes lookup :=
      composes_failing (fun _ he => he.isOwn.scoped l) lookup
    have hlookup : OnError (RenderError.Scoped l) (c.lookup r l) :=
      onError_lookup (fun m e he => (hmissing m e he).scoped l) r l
    show failing (RenderError.Scoped l) String (evaluateWithin c lookup maxDepth (room + 1) r l)
      (evaluateWithin c lookup maxDepth (room + 1) r l)
    rw [evaluateWithin]
    exact requestText_related hcomposes hlookup (fun _ => rfl)
      (fun key _ => scoped_nestedText (ih _ _)) fun v _ m _ _ => scoped_nestedText (ih m _)

/-! ## The locale that the request itself prefers -/

theorem lookup_withLocale (hmissing : c.missing = failFast) (r : Message) (preferred l : String) :
    c.lookup (r.withLocale preferred) l = c.lookup r l := by
  unfold Catalog.lookup
  rw [hmissing]
  rfl

theorem fragmentText_withLocale (inner : Message → String → Except RenderError String) (r : Message)
    (preferred l : String) (fragment : Fragment) :
    fragmentText c lookup (r.withLocale preferred) (fun m _ around => inner m around) l fragment =
      fragmentText c lookup r (fun m _ around => inner m around) l fragment := by
  cases fragment with
  | text t => rfl
  | argument reference options =>
    obtain ⟨key, locale, args, named⟩ := r
    rfl

/-- A message evaluates to the same in a given locale, whatever locale it prefers. -/
theorem evaluateWithin_withLocale (hmissing : c.missing = failFast) (maxDepth room : Nat)
    (r : Message) (preferred l : String) :
    evaluateWithin c lookup maxDepth room (r.withLocale preferred) l =
      evaluateWithin c lookup maxDepth room r l := by
  cases room with
  | zero => rfl
  | succ room =>
    have hfragments := funext (@fragmentText_withLocale c lookup (fun m around =>
      nestedText m (Setting.targetLocale m around)
        (evaluateWithin c lookup maxDepth room m (Setting.targetLocale m around))) r preferred l)
    rw [evaluateWithin, evaluateWithin, requestText, requestText, lookup_withLocale hmissing,
      hfragments]

end Evaluation

/-! ## Translations -/

/-- With the built-in factories, and failing on missing texts, a request is translated to a given
locale in the same way whatever locale it prefers: to the same text, or to a failure with the same
root. In every failure the outermost frame is in that locale, and every further frame is in the
locale that its own request prefers, else in the one of the frame just outside it. -/
theorem locale_scoping {t : Translator} {lookup : Factory.PluralLookup}
    (h : t.registry.Arises lookup) (hmissing : t.catalog.missing = failFast) (r : Message)
    (l : String) :
    (∀ preferred,
      (∃ text, (t.translateTo (r.withLocale preferred) l).1 = .ok text ∧
        (t.translateTo r l).1 = .ok text) ∨
      ∃ e e', (t.translateTo (r.withLocale preferred) l).1 = .error e ∧
        (t.translateTo r l).1 = .error e' ∧ e.root = e'.root) ∧
    ∀ e, (t.translateTo r l).1 = .error e →
      e.frames.head? = some (r, l) ∧
      e.frames.IsChain fun around frame => frame.2 = frame.1.locale.getD around.2 := by
  have htranslate := fun r => (translateTo_eq_evaluateWithin h.isBuiltin r l).1
  refine ⟨fun preferred => ?_, fun e he => ?_⟩
  · rw [htranslate, htranslate, Evaluation.evaluateWithin_withLocale hmissing]
    cases Evaluation.evaluateWithin t.catalog lookup t.setting.maxDepth t.setting.maxDepth r l with
    | ok text => exact Or.inl ⟨text, rfl, rfl⟩
    | error cause => exact Or.inr ⟨_, _, rfl, rfl, rfl⟩
  · have hown : ∀ m e, t.catalog.missing m = .error e → e.IsOwn := by
      rw [hmissing]
      exact fun m e => isOwn_of_failFast
    rw [htranslate] at he
    obtain ⟨cause, hcause, rfl⟩ := mapError_eq_error.1 he
    exact ⟨rfl, (Evaluation.scoped_evaluateWithin hown _ _ r l cause hcause).isChain⟩

/-! ## A number in a Swedish message -/

/-- A translator that has a format for whole numbers in German only. -/
def numbering : Translator where
  setting :=
    { catalog :=
        ⟨((Store.empty.insert "de" "show"
            ⟨[.text "[", .argument (.position 0) .none, .text "]"]⟩).insert
          "sv" "show" ⟨[.text "<", .argument (.position 0) .none, .text ">"]⟩).insert
          "de" "number.int" (Compiled.ofText "%03d"),
          fun l => [l], failFast⟩
      defaultLocale := "de"
      maxDepth := 4 }
  registry := Registry.builtins .byTag

/-- A number in a message that may prefer a locale, in a list in another message. -/
def listed (inner : Message) : Message :=
  (Request.ofKey "show").arg (.list [.message (inner.arg (.integer 7))])

/-- Whatever locale is preferred at the top, the translation is to German. Inside it the preference
for Swedish counts, also for the format that the number lacks there. -/
theorem scoping_of_numbering :
    numbering.catalog.missing = failFast ∧
    (numbering.translateTo (listed (Request.ofKey "show")) "de").1 = .ok "[[007]]" ∧
    (numbering.translateTo ((listed (Request.ofKey "show")).withLocale "sv") "de").1 =
      .ok "[[007]]" ∧
    ∃ e, (numbering.translateTo (listed ((Request.ofKey "show").withLocale "sv")) "de").1 =
        .error e ∧
      e.frames.map Prod.snd = ["de", "sv", "sv"] ∧
      e.frames.IsChain fun around frame => frame.2 = frame.1.locale.getD around.2 := by
  have hmissing : numbering.catalog.missing = failFast := rfl
  have htext : (numbering.translateTo (listed (Request.ofKey "show")) "de").1 = .ok "[[007]]" := by
    cbv
  have hfailed :
      (numbering.translateTo (listed ((Request.ofKey "show").withLocale "sv")) "de").1 =
        .error ⟨listed ((Request.ofKey "show").withLocale "sv"), "de",
          .nested (((Request.ofKey "show").withLocale "sv").arg (.integer 7)) "sv"
            (.nested (Request.ofKey "number.int") "sv"
              (.missingText "number.int" "sv" ["sv"] []))⟩ := by
    cbv
  have hscoping := @locale_scoping numbering .byTag .fresh hmissing
  refine ⟨hmissing, htext, ?_, _, hfailed, rfl, ((hscoping _ "de").2 _ hfailed).2⟩
  rcases (hscoping (listed (Request.ofKey "show")) "de").1 "sv" with
    ⟨text, hsame, h⟩ | ⟨_, _, _, h, _⟩
  · rw [hsame, ← h, htext]
  · rw [htext] at h
    cases h

end Parlance

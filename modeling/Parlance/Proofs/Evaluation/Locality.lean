import Parlance.Proofs.Catalog.Contents
import Parlance.Proofs.Evaluation.Translation

/-!
# Which locales a translation reads

A translation reads the catalog for the messages it renders, for the plural texts it chooses between
and for the suggestions of a missing text. All this stays inside the chains of the locale it is
translated to and of the locales that the messages nested in the request prefer. What a catalog
holds for any other locale makes no difference.

Results:
1. `covers_equal`: two catalogs that agree in the scope of a request (`Catalog.AgreeInScope`) are
   alike for it and for all that is nested in it.
2. `locale_noninterference`: they lead to the same translation.
-/

namespace Parlance

/-! ## Definitions -/

/-- Two catalogs hold the same messages for the chain of the locale and for the chains of all
locales that messages nested in the request prefer. -/
structure Catalog.AgreeInScope (c c' : Catalog) (r : Message) (locale : String) : Prop where
  here : c.AgreeFor c' locale
  preferred : ∀ m, r.Nests m → ∀ l, m.locale = some l → c.AgreeFor c' l

/-! ## The scope -/

namespace Catalog.AgreeInScope

variable {c c' : Catalog} {r : Message} {locale : String}

/-- The words of the catalog are looked up in the same locale, and nothing is nested in them. -/
theorem word (h : c.AgreeInScope c' r locale) (key : String) :
    c.AgreeInScope c' (Request.ofKey key) locale where
  here := h.here
  preferred m hm := by
    cases hm with
    | argument hv _ => cases hv
    | deeper hv _ _ => cases hv

/-- What is nested in a message inside another is nested in the other. -/
theorem inner (h : c.AgreeInScope c' r locale) {v : Value} {m : Message} (hv : v ∈ r.arguments)
    (hm : v.Holds m) : c.AgreeInScope c' m (Setting.targetLocale m locale) where
  here := by
    unfold Setting.targetLocale
    cases hlocale : m.locale with
    | none => exact h.here
    | some l => exact h.preferred m (.argument hv hm) l hlocale
  preferred n hn := h.preferred n (.deeper hv hm hn)

end Catalog.AgreeInScope

/-- A strategy for missing texts that reads nothing but the searched locales: one of the two that
come with a catalog. -/
theorem missing_eq {missing : MissingTextStrategy} (h : missing = failFast ∨ missing = substitute)
    {r : Message} {locale : String} {searched : List String} {s s' : Store}
    (hsame : ∀ l ∈ searched, ∀ key, s.get? l key = s'.get? l key) :
    missing ⟨r, locale, searched, s⟩ = missing ⟨r, locale, searched, s'⟩ := by
  rcases h with rfl | rfl
  · exact congrArg Except.error (MissingText.error_eq hsame)
  · rfl

theorem Evaluation.covers_equal {c c' : Catalog} (hfallback : c'.fallback = c.fallback)
    (hmissing : c'.missing = c.missing) (h : c.missing = failFast ∨ c.missing = substitute) :
    Covers equal c c' (c.AgreeInScope c') where
  lookup r l hscope := by
    refine Catalog.lookup_eq hfallback hscope.here r ?_
    rw [hmissing]
    exact missing_eq h hscope.here
  contains r l hscope key := Catalog.contains_eq hfallback hscope.here key
  word r l key hscope := hscope.word key
  inner r l v m hscope hv hm := hscope.inner hv hm

/-! ## Translations -/

/-- Take two translators with the built-in factories, the same look-up of plural texts, fallback
strategy and depth allowed, and the same of the two strategies for missing texts. If their catalogs
hold the same messages for the chain of a locale, and for the chain of every locale that a message
nested in the request prefers, the request is translated to the same text or fails with the same
error, whatever the catalogs hold for other locales. -/
theorem locale_noninterference {t u : Translator} {lookup : Factory.PluralLookup}
    (ht : t.registry.Arises lookup) (hu : u.registry.Arises lookup)
    (hfallback : u.catalog.fallback = t.catalog.fallback)
    (hmissing : u.catalog.missing = t.catalog.missing)
    (hstrategy : t.catalog.missing = failFast ∨ t.catalog.missing = substitute)
    (hdepth : u.setting.maxDepth = t.setting.maxDepth) (r : Message) (locale : String)
    (hhere : ∀ l ∈ t.catalog.chain locale, ∀ key, t.catalog.get? key l = u.catalog.get? key l)
    (hpreferred : ∀ m, r.Nests m → ∀ preferred, m.locale = some preferred →
      ∀ l ∈ t.catalog.chain preferred, ∀ key, t.catalog.get? key l = u.catalog.get? key l) :
    (t.translateTo r locale).1 = (u.translateTo r locale).1 := by
  rw [(translateTo_eq_evaluateWithin ht.isBuiltin r locale).1,
    (translateTo_eq_evaluateWithin hu.isBuiltin r locale).1, hdepth]
  have hevaluate := Evaluation.evaluateWithin_related (Evaluation.respects_equal lookup)
    (Evaluation.covers_equal hfallback hmissing hstrategy) t.setting.maxDepth t.setting.maxDepth r
    locale ⟨hhere, hpreferred⟩
  exact congrArg _ hevaluate

/-! ## A locale that nobody asks for -/

/-- A translator with some French texts besides a German and a Swedish one. -/
def bordering (french : Table) : Translator where
  setting :=
    { catalog :=
        ⟨((Store.empty.insert "de" "show"
            ⟨[.text "[", .argument (.position 0) .none, .text "]"]⟩).insert
          "sv" "colour" (Compiled.ofText "kulör")).insertAll "fr" french,
          Locale.truncatingChain "en", failFast⟩
      defaultLocale := "en"
      maxDepth := 3 }
  registry := Registry.builtins .byTag

/-- A French text under a key that no other locale has. -/
def french : Table :=
  [("color", Compiled.ofText "couleur")]

/-- A message that prefers Swedish, where there is none. -/
def swedish : Message :=
  (Request.ofKey "color").withLocale "sv_SE"

/-- It is shown inside a message that is there in German. -/
def showingSwedish : Message :=
  (Request.ofKey "show").arg (.message swedish)

theorem Store.get?_insertAll_of_ne (s : Store) {locale other : String} (h : locale ≠ other)
    (messages : Table) (key : String) :
    (s.insertAll locale messages).get? other key = s.get? other key := by
  unfold insertAll
  induction messages generalizing s with
  | nil => rfl
  | cons m rest ih =>
    rw [List.foldl_cons, ih, get?_insert, if_neg fun hsame => h hsame.1]

theorem agreeFor_bordering (texts texts' : Table) {locale : String}
    (h : "fr" ∉ Locale.truncatingChain "en" locale) :
    (bordering texts).catalog.AgreeFor (bordering texts').catalog locale := by
  intro l hl key
  have hne : "fr" ≠ l := fun heq => h (heq ▸ hl)
  exact (Store.get?_insertAll_of_ne _ hne texts key).trans
    (Store.get?_insertAll_of_ne _ hne texts' key).symm

theorem eq_swedish_of_nests {m : Message} (h : showingSwedish.Nests m) : m = swedish := by
  have hargument : ∀ v ∈ showingSwedish.arguments, ∀ q, v.Holds q → q = swedish := by
    intro v hv q hq
    obtain rfl := List.mem_singleton.1 hv
    cases hq
    rfl
  cases h with
  | argument hv hm => exact hargument _ hv m hm
  | deeper hv hq hdeeper =>
    -- Nothing is nested in the Swedish message.
    obtain rfl := hargument _ hv _ hq
    cases hdeeper with
    | argument hv _ => cases hv
    | deeper hv _ _ => cases hv

theorem agreeInScope_bordering (texts texts' : Table) :
    (bordering texts).catalog.AgreeInScope (bordering texts').catalog showingSwedish "de_CH" := by
  have hgerman : Locale.truncatingChain "en" "de_CH" = ["de_CH", "de", "en"] := by cbv
  have hswedish : Locale.truncatingChain "en" "sv_SE" = ["sv_SE", "sv", "en"] := by cbv
  refine ⟨agreeFor_bordering texts texts' (by simp [hgerman]), fun m hm l hl => ?_⟩
  obtain rfl := eq_swedish_of_nests hm
  obtain rfl := Option.some.inj hl
  exact agreeFor_bordering texts texts' (by simp [hswedish])

/-- The missing text has a suggestion from the Swedish texts. The French text under its key is not
found, nor does it change the error. -/
theorem noninterference_of_bordering :
    (bordering french).catalog.get? "color" "fr" = some (Compiled.ofText "couleur") ∧
    (bordering []).catalog.get? "color" "fr" = none ∧
    (bordering french).catalog.AgreeInScope (bordering []).catalog showingSwedish "de_CH" ∧
    ((bordering []).translateTo showingSwedish "de_CH").1 =
      .error ⟨showingSwedish, "de_CH", .nested swedish "sv_SE"
        (.missingText "color" "sv_SE" ["sv_SE", "sv", "en"] ["colour"])⟩ ∧
    ((bordering french).translateTo showingSwedish "de_CH").1 =
      .error ⟨showingSwedish, "de_CH", .nested swedish "sv_SE"
        (.missingText "color" "sv_SE" ["sv_SE", "sv", "en"] ["colour"])⟩ := by
  have hscope := agreeInScope_bordering french []
  have hplain : ((bordering []).translateTo showingSwedish "de_CH").1 =
      .error ⟨showingSwedish, "de_CH", .nested swedish "sv_SE"
        (.missingText "color" "sv_SE" ["sv_SE", "sv", "en"] ["colour"])⟩ := by cbv
  have hsame := @locale_noninterference (bordering french) (bordering []) .byTag .fresh .fresh rfl
    rfl (Or.inl rfl) rfl showingSwedish "de_CH" hscope.here hscope.preferred
  exact ⟨by cbv, by cbv, hscope, hplain, hsame.trans hplain⟩

end Parlance

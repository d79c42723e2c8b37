import Mathlib
import Parlance.Proofs.Evaluation.Plural
import Parlance.Proofs.Evaluation.Translation
import Parlance.Proofs.Rendering.Lifetime
import Parlance.Proofs.Rendering.Scanning

/-!
# Texts of lists

The text of a list is put together of the texts of its items and of the words of the catalog. The
items are formatted from the first to the last that does not fail. Only if all have a text, words
are translated, and only those that a list of this length needs.

Results:
1. `textAt_eq_valueText`, `wordAt_eq_nestedAt`: at a moment, values and keys give what scanning
   gives on its stack.
2. `textAt_list`: a list gives what its items and the words give.
3. `exists_error_listValue_iff`: what of this may fail.
4. `list_by_items`: all of this by the number of the items.
-/

namespace Parlance

/-! ## Definitions -/

/-- The text of a list, given the texts of keys and of values. -/
def Evaluation.listValue (word : String → Except RenderError String)
    (text : Value → Except RenderError String) (joiner : Factory.Joiner) (items : List Value) :
    Except RenderError String := do
  let texts ← items.mapM text
  listText word joiner texts

/-- What messages give inside another one that is the innermost on a stack. -/
def Scanner.nestedAt (s : Scanner) (stack : List Frame) (m : Message) (around : String) :
    Except RenderError String :=
  Evaluation.nestedText m (Setting.targetLocale m around)
    (s.messageText (s.setting.maxDepth - stack.length) stack m (Setting.targetLocale m around))

/-! ## Scripts -/

namespace Factory

variable {bound : Nat} {view : View} {nested : Message → String → Except RenderError String}
  {locale : String} {part : Value → String → Options → Except RenderError String}

theorem outcome_itemTexts (items : List Value) (h : ∀ v ∈ items, v.size < bound) :
    (itemTexts locale items h).outcome view nested (fun v _ l o => part v l o) =
      items.mapM fun v => part v locale .none := by
  induction items with
  | nil => rfl
  | cons v rest ih =>
    rw [itemTexts, List.mapM_cons, Script.outcome_bind]
    refine congrArg₂ _ (Script.outcome_ofExcept _) (funext fun text => ?_)
    rw [Script.outcome_bind, ih]
    rfl

theorem outcome_joined {part : (v : Value) → v.size < bound → String → Options →
      Except RenderError String} (joiner : Joiner) {texts : List String} (h : texts ≠ []) :
    (joined locale joiner texts : Script bound String).outcome view nested part =
      Evaluation.listText (fun key => nested (Request.ofKey key) locale) joiner texts := by
  match texts with
  | [] => exact absurd rfl h
  | [_] => rfl
  | [_, _] =>
    rw [joined, Script.outcome_bind, Script.outcome_translatedKey]
    rfl
  | _ :: _ :: _ :: _ =>
    rw [joined, Script.outcome_bind, Script.outcome_translatedKey]
    refine congrArg _ (funext fun comma => ?_)
    rw [Script.outcome_bind, Script.outcome_translatedKey]
    rfl

end Factory

/-! ## Items -/

namespace Evaluation

section

variable {α β : Type} {f : α → Except RenderError β}

theorem mapM_eq_ok {as : List α} {bs : List β} (h : as.map f = bs.map .ok) :
    as.mapM f = .ok bs := by
  induction as generalizing bs with
  | nil =>
    obtain rfl := List.map_eq_nil_iff.1 h.symm
    rfl
  | cons a rest ih =>
    obtain ⟨b, others, rfl, hb, hothers⟩ := List.map_eq_cons_iff.1 h.symm
    rw [List.mapM_cons, ← hb, ih hothers.symm]
    rfl

theorem mapM_eq_error {before after : List α} {a : α} {e : RenderError}
    (hbefore : ∀ b ∈ before, ∃ x, f b = .ok x) (ha : f a = .error e) :
    (before ++ a :: after).mapM f = .error e := by
  induction before with
  | nil =>
    rw [List.nil_append, List.mapM_cons, ha]
    rfl
  | cons b rest ih =>
    obtain ⟨⟨x, hx⟩, hrest⟩ := List.forall_mem_cons.1 hbefore
    rw [List.cons_append, List.mapM_cons, hx, ih hrest]
    rfl

/-- Either all succeed, or there is a first that fails. -/
theorem exists_map_eq_ok_or_error (f : α → Except RenderError β) (as : List α) :
    (∃ bs : List β, as.map f = bs.map .ok) ∨
      ∃ before a after e, as = before ++ a :: after ∧ (∀ b ∈ before, ∃ x, f b = .ok x) ∧
        f a = .error e := by
  induction as with
  | nil => exact Or.inl ⟨[], rfl⟩
  | cons a rest ih =>
    cases ha : f a with
    | error e => exact Or.inr ⟨[], a, rest, e, rfl, List.forall_mem_nil _, ha⟩
    | ok b =>
      rcases ih with ⟨bs, hbs⟩ | ⟨before, a', after, e, rfl, hbefore, ha'⟩
      · exact Or.inl ⟨b :: bs, by rw [List.map_cons, ha, hbs, List.map_cons]⟩
      · exact Or.inr ⟨a :: before, a', after, e, rfl,
          List.forall_mem_cons.2 ⟨⟨b, ha⟩, hbefore⟩, ha'⟩

end

/-! ## Joining -/

section

variable {word : String → Except RenderError String} {text : Value → Except RenderError String}
  {joiner : Factory.Joiner} {items : List Value} {texts : List String}

theorem intercalate_eq_join (comma first : String) (middle : List String) :
    String.intercalate comma (first :: middle) =
      first ++ String.join (middle.map (comma ++ ·)) := by
  induction middle generalizing first with
  | nil => simp
  | cons second rest ih =>
    rw [String.intercalate_cons_cons, ih, List.map_cons, String.join_cons, String.append_assoc,
      String.append_assoc]

/-- Before every text but the first and the last stands a comma. -/
theorem listText_of_middle {first last : String} {middle : List String} (h : middle ≠ []) :
    listText word joiner (first :: (middle ++ [last])) = do
      let comma ← word listCommaKey
      let between ← word joiner.key
      return first ++ String.join (middle.map (comma ++ ·)) ++ between ++ last := by
  obtain ⟨second, rest, rfl⟩ := List.exists_cons_of_ne_nil h
  obtain ⟨third, others, hrest⟩ : ∃ third others, rest ++ [last] = third :: others :=
    List.exists_cons_of_ne_nil (by simp)
  have htexts : first :: second :: third :: others = (first :: second :: rest) ++ [last] := by
    rw [← hrest]
    rfl
  rw [List.cons_append, hrest, listText, htexts, List.dropLast_concat, List.getLastD_concat]
  · simp only [intercalate_eq_join]
  all_goals simp

/-- The words that the texts of a list need. -/
theorem exists_error_listText_iff :
    (∃ e, listText word joiner texts = .error e) ↔
      (texts = [] ∧ ∃ e, word listEmptyKey = .error e) ∨
      (3 ≤ texts.length ∧ ∃ e, word listCommaKey = .error e) ∨
      (2 ≤ texts.length ∧ ∃ e, word joiner.key = .error e) := by
  match texts with
  | [] => simp [listText]
  | [_] => simp [listText]
  | [_, _] =>
    simp only [listText]
    cases word joiner.key <;> simp [bind, Except.bind, pure, Except.pure]
  | _ :: _ :: _ :: _ =>
    simp only [listText]
    cases word listCommaKey <;> cases word joiner.key <;>
      simp [bind, Except.bind, pure, Except.pure]

theorem listValue_of_texts (h : items.map text = texts.map .ok) :
    listValue word text joiner items = listText word joiner texts := by
  rw [listValue, mapM_eq_ok h]
  rfl

theorem listValue_of_error {before after : List Value} {v : Value} {e : RenderError}
    (hbefore : ∀ w ∈ before, ∃ s, text w = .ok s) (hv : text v = .error e) :
    listValue word text joiner (before ++ v :: after) = .error e := by
  rw [listValue, mapM_eq_error hbefore hv]
  rfl

/-- A list fails if one of its items does, and else if a word does that it needs. -/
theorem exists_error_listValue_iff :
    (∃ e, listValue word text joiner items = .error e) ↔
      (∃ v ∈ items, ∃ e, text v = .error e) ∨
      (items = [] ∧ ∃ e, word listEmptyKey = .error e) ∨
      (3 ≤ items.length ∧ ∃ e, word listCommaKey = .error e) ∨
      (2 ≤ items.length ∧ ∃ e, word joiner.key = .error e) := by
  rcases exists_map_eq_ok_or_error text items with
    ⟨texts, htexts⟩ | ⟨before, v, after, e, rfl, hbefore, hv⟩
  · have hitems : ¬∃ v ∈ items, ∃ e, text v = .error e := by
      rintro ⟨v, hv, e, he⟩
      have hmem : text v ∈ texts.map .ok := htexts ▸ List.mem_map_of_mem hv
      obtain ⟨s, -, hs⟩ := List.mem_map.1 hmem
      cases hs.trans he
    have hlength : items.length = texts.length := by
      simpa using congrArg List.length htexts
    have hempty : items = [] ↔ texts = [] := by
      rw [← List.length_eq_zero_iff, hlength, List.length_eq_zero_iff]
    rw [listValue_of_texts htexts, exists_error_listText_iff, hempty, hlength]
    exact ⟨Or.inr, fun h => h.resolve_left hitems⟩
  · exact ⟨fun _ => Or.inl ⟨v, by simp, e, hv⟩, fun _ => ⟨e, listValue_of_error hbefore hv⟩⟩

end

end Evaluation

/-! ## Scanning -/

namespace Scanner

variable {s : Scanner} {st : List Frame} {nested : Message → String → Except RenderError String}
  {locale : String} {options : Options} {joiner : Factory.Joiner} {items : List Value}

/-- The formatter for lists looks for an empty list before it has any item formatted. -/
theorem outcome_listFormatter {view : View}
    {part : Value → String → Options → Except RenderError String} :
    (Factory.listFormatter locale joiner (.list items)).outcome view nested
        (fun v _ l o => part v l o) =
      Evaluation.listValue (fun key => nested (Request.ofKey key) locale)
        (fun v => part v locale .none) joiner items := by
  cases items with
  | nil => exact Script.outcome_translatedKey _ _
  | cons first rest =>
    rw [Factory.listFormatter, Script.outcome_bind, Factory.outcome_itemTexts]
    rcases Evaluation.exists_map_eq_ok_or_error (fun v => part v locale .none) (first :: rest) with
      ⟨texts, htexts⟩ | ⟨before, v, after, e, hitems, hbefore, hv⟩
    · rw [Evaluation.listValue_of_texts htexts, Evaluation.mapM_eq_ok htexts]
      refine Factory.outcome_joined joiner ?_
      rintro rfl
      cases htexts
    · rw [hitems, Evaluation.listValue_of_error hbefore hv, Evaluation.mapM_eq_error hbefore hv]
      rfl

/-- A list that is handled by the factory for lists has the text that its items and the words
give. -/
theorem valueText_list (hfactory : Registry.first s.factories (.list items) = .ok Factory.list)
    (hcheck : options.check "list" [Factory.joinerOption] = .ok ())
    (hjoiner : Factory.joinerOf options = .ok joiner) :
    s.valueText st nested (.list items) locale options =
      Evaluation.listValue (fun key => nested (Request.ofKey key) locale)
        (fun v => s.valueText st nested v locale .none) joiner items := by
  have hformatter : s.formatterFor (.list items) locale options =
      .ok (Factory.listFormatter locale joiner) := by
    rw [formatterFor, hfactory]
    show (options.check "list" [Factory.joinerOption] >>= fun _ =>
      Factory.joinerOf options >>= fun j => pure (Factory.listFormatter locale j)) = _
    rw [hcheck, hjoiner]
    rfl
  rw [valueText, hformatter]
  exact outcome_listFormatter

end Scanner

/-! ## Moments -/

/-- At every moment of a translation by a reliable registry it is reliable. -/
theorem Translator.reliable_of_moments {t : Translator} {factories : List Factory}
    (h : t.registry.Reliable factories) (htypes : ∀ f ∈ factories, f.TypeDetermined) {r : Message}
    {l : String} {p : Progress} (hp : p ∈ t.moments r l) : p.registry.Reliable factories := by
  have hmeets : (Discipline.knowing (Registry.Reliable factories)).Meets []
      (t.setting.translateWithin t.setting.maxDepth r l) fun _ => True :=
    Discipline.meets_knowing (fun _ v l o h => (h.formatterFor htypes v l o).2) _ _ _ _ _
  obtain ⟨hmoments, -⟩ := hmeets ⟨t.registry, []⟩ rfl ⟨Discipline.holds_knowing h, trivial⟩
  exact (hmoments p hp).1.2

/-- The registries that arise with the built-in factories are reliable. -/
theorem Registry.Arises.reliable {lookup : Factory.PluralLookup} {r : Registry}
    (h : r.Arises lookup) : r.Reliable (Factory.builtins lookup) := by
  have htypes := Factory.builtins_typeDetermined lookup
  induction h with
  | fresh => exact .of_resolved_eq_nil (r := Registry.builtins lookup) rfl
  | found v l o _ ih => exact (ih.formatterFor htypes v l o).2
  | translated r l _ ih =>
    have hknown : ∀ q v l o, Registry.Reliable (Factory.builtins lookup) q →
        (q.formatterFor v l o).2.Reliable (Factory.builtins lookup) :=
      fun _ v l o h => (h.formatterFor htypes v l o).2
    exact Translator.registry_translateTo hknown ih r l

section

variable {t : Translator} {p : Progress} {factories : List Factory}
  (hreliable : p.registry.Reliable factories) (htypes : ∀ f ∈ factories, f.TypeDetermined)

include htypes

theorem meets_nestedAt (m : Message) (around : String) :
    (Discipline.reliable factories).Meets p.stack
      (Setting.translateNested
        (t.setting.translateWithin (t.setting.maxDepth - p.stack.length)) m around)
      (· = (Scanner.mk t.setting factories).nestedAt p.stack m around) :=
  Evaluation.meets_nestedText (Scanner.meets_messageText ⟨t.setting, factories⟩ htypes _ _ _ _)

include hreliable

theorem wordAt_eq_nestedAt (locale key : String) :
    t.wordAt p locale key =
      (Scanner.mk t.setting factories).nestedAt p.stack (Request.ofKey key) locale :=
  (meets_nestedAt htypes (Request.ofKey key) locale p rfl ⟨hreliable, trivial⟩).2.2

theorem textAt_eq_valueText (v : Value) (locale : String) (options : Options) :
    t.textAt p v locale options =
      (Scanner.mk t.setting factories).valueText p.stack
        ((Scanner.mk t.setting factories).nestedAt p.stack) v locale options :=
  (Scanner.meets_valueText (s := ⟨t.setting, factories⟩) htypes (meets_nestedAt htypes) v options p
    rfl ⟨hreliable, trivial⟩).2.2

theorem textAt_list {items : List Value} {locale : String} {options : Options}
    {joiner : Factory.Joiner}
    (hfactory : Registry.first factories (.list items) = .ok Factory.list)
    (hcheck : options.check "list" [Factory.joinerOption] = .ok ())
    (hjoiner : Factory.joinerOf options = .ok joiner) :
    t.textAt p (.list items) locale options =
      Evaluation.listValue (t.wordAt p locale) (fun v => t.textAt p v locale .none) joiner
        items := by
  have hword : t.wordAt p locale = fun key =>
      (Scanner.mk t.setting factories).nestedAt p.stack (Request.ofKey key) locale :=
    funext (wordAt_eq_nestedAt hreliable htypes locale)
  have htext : (fun v => t.textAt p v locale .none) = fun v =>
      (Scanner.mk t.setting factories).valueText p.stack
        ((Scanner.mk t.setting factories).nestedAt p.stack) v locale .none :=
    funext fun v => textAt_eq_valueText hreliable htypes v locale .none
  rw [textAt_eq_valueText hreliable htypes, hword, htext]
  exact Scanner.valueText_list hfactory hcheck hjoiner

end

/-- Take a translator and a moment of a translation at which its registry is reliable, as it always
is with the built-in factories. Take a list that is handled by the factory for lists, with options
that choose how it is joined. Items are formatted without options, in the locale of the list.
* If an item fails and none before it does, the list fails with this error.
* If all items have texts, so has the list, unless a word fails that it needs: without items it is
  the word for this; a single item is the text; between two stands the joiner; and of more the last
  two are joined by the joiner and those before them by the comma, which is translated first.
* So the list fails exactly if an item does, or a word of these. Other words do not matter.
* A list among the items is joined as one whose options choose the joiner for lists that all
  count. -/
theorem list_by_items {t : Translator} {p : Progress} {factories : List Factory}
    {options : Options} {joiner : Factory.Joiner} (items : List Value) (locale : String)
    (hreliable : p.registry.Reliable factories) (htypes : ∀ f ∈ factories, f.TypeDetermined)
    (hfactory : Registry.first factories (.list items) = .ok Factory.list)
    (hcheck : options.check "list" [Factory.joinerOption] = .ok ())
    (hjoiner : Factory.joinerOf options = .ok joiner) :
    let word := t.wordAt p locale
    let text := fun v => t.textAt p v locale .none
    let shown := t.textAt p (.list items) locale options
    (∀ before v after e, items = before ++ v :: after → (∀ w ∈ before, ∃ s, text w = .ok s) →
      text v = .error e → shown = .error e) ∧
    (∀ texts, items.map text = texts.map .ok →
      (texts = [] → shown = word listEmptyKey) ∧
      (∀ only, texts = [only] → shown = .ok only) ∧
      (∀ first last, texts = [first, last] →
        shown = (word joiner.key).map (first ++ · ++ last)) ∧
      (∀ first middle last, texts = first :: (middle ++ [last]) → middle ≠ [] →
        shown = do
          let comma ← word listCommaKey
          let between ← word joiner.key
          return first ++ String.join (middle.map (comma ++ ·)) ++ between ++ last)) ∧
    ((∃ e, shown = .error e) ↔
      (∃ v ∈ items, ∃ e, text v = .error e) ∨
      (items = [] ∧ ∃ e, word listEmptyKey = .error e) ∨
      (3 ≤ items.length ∧ ∃ e, word listCommaKey = .error e) ∨
      (2 ≤ items.length ∧ ∃ e, word joiner.key = .error e)) ∧
    ∀ inner o, o.check "list" [Factory.joinerOption] = .ok () →
      Factory.joinerOf o = .ok .conjunction →
      text (.list inner) = t.textAt p (.list inner) locale o := by
  intro word text shown
  have hshown : shown = Evaluation.listValue word text joiner items :=
    textAt_list hreliable htypes hfactory hcheck hjoiner
  rw [hshown]
  refine ⟨?_, fun texts htexts => ?_, Evaluation.exists_error_listValue_iff, ?_⟩
  · rintro before v after e rfl hbefore hv
    exact Evaluation.listValue_of_error hbefore hv
  · rw [Evaluation.listValue_of_texts htexts]
    refine ⟨?_, ?_, ?_, ?_⟩
    · rintro rfl
      rfl
    · rintro only rfl
      rfl
    · rintro first last rfl
      exact bind_pure_comp (m := Except RenderError) _ _
    · rintro first middle last rfl hmiddle
      exact Evaluation.listText_of_middle hmiddle
  · intro inner o ho hconjunction
    have hinner : Registry.first factories (.list inner) = .ok Factory.list :=
      Registry.first_eq_of_type (v := .list items) (w := .list inner) htypes rfl hfactory
    exact (textAt_list hreliable htypes hinner rfl rfl).trans
      (textAt_list hreliable htypes hinner ho hconjunction).symm

/-! ## A list in a list -/

/-- The options that join alternatives. -/
def orOptions : Options :=
  Options.ofMembers [("type", .string "or")]

/-- A translator that has no comma for lists. -/
def offering : Translator where
  setting :=
    { catalog :=
        ⟨((Store.empty.insert "en" "offer" ⟨[.argument (.position 0) orOptions]⟩).insert
          "en" "list.and" (Compiled.ofText " and ")).insert
          "en" "list.or" (Compiled.ofText " or "),
          fun l => [l], failFast⟩
      defaultLocale := "en"
      maxDepth := 2 }
  registry := Registry.builtins .byTag

/-- Alternatives, of which one is a list. -/
def alternatives : List Value :=
  [.list [.string "bread", .string "butter"], .string "soup"]

/-- The moment at which the list of an offer is formatted. -/
def offered : Progress :=
  ⟨Registry.builtins .byTag, [⟨(Request.ofKey "offer").arg (.list alternatives), "en"⟩]⟩

/-- Two alternatives need no comma. Three do, and fail for it. -/
theorem list_of_alternatives :
    offered ∈ offering.moments ((Request.ofKey "offer").arg (.list alternatives)) "en" ∧
    offering.textAt offered (.list alternatives) "en" orOptions = .ok "bread and butter or soup" ∧
    ∃ e, offering.textAt offered (.list (.string "water" :: alternatives)) "en" orOptions =
      .error (.nested (Request.ofKey listCommaKey) "en" e) := by
  have hp : offered ∈ offering.moments ((Request.ofKey "offer").arg (.list alternatives)) "en" :=
    List.mem_of_getElem? (i := 1) rfl
  have hreliable : offered.registry.Reliable (Factory.builtins .byTag) :=
    Translator.reliable_of_moments Registry.Arises.fresh.reliable
      (Factory.builtins_typeDetermined .byTag) hp
  have hcheck : orOptions.check "list" [Factory.joinerOption] = .ok () := by cbv
  have hjoiner : Factory.joinerOf orOptions = .ok .disjunction := by cbv
  have hlist := fun items => list_by_items (t := offering) items "en" hreliable
    (Factory.builtins_typeDetermined .byTag) rfl hcheck hjoiner
  have htexts : alternatives.map (fun v => offering.textAt offered v "en" .none) =
      ["bread and butter", "soup"].map .ok := by cbv
  have hword : offering.wordAt offered "en" Factory.Joiner.disjunction.key = .ok " or " := by cbv
  obtain ⟨e, hcomma⟩ : ∃ e, offering.wordAt offered "en" listCommaKey =
      .error (.nested (Request.ofKey listCommaKey) "en" e) := ⟨_, by cbv⟩
  refine ⟨hp, ?_, ?_⟩
  · rw [((hlist alternatives).2.1 _ htexts).2.2.1 _ _ rfl, hword]
    rfl
  · have hmore : (.string "water" :: alternatives).map
          (fun v => offering.textAt offered v "en" .none) =
        ["water", "bread and butter", "soup"].map .ok := by cbv
    rw [((hlist _).2.1 _ hmore).2.2.2 "water" ["bread and butter"] "soup" rfl
      (List.cons_ne_nil _ _), hcomma]
    exact ⟨e, rfl⟩

end Parlance

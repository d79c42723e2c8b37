import Parlance.Proofs.Evaluation.Basic
import Parlance.Proofs.Formatter.Resolution
import Parlance.Proofs.Rendering.Contract

/-!
# Renderings agree with the evaluation

With the built-in factories, rendering a message gives what `evaluateWithin` gives, whatever the
registry remembers and whatever heavier messages are on the stack: the messages inside a message are
lighter than all of these, so none of them is taken for a cycle.

Results:
1. `made_of_first`: the script of each built-in formatter has the outcome that the rules of the
   evaluation give, if its answers are what the evaluation gives.
2. `meets_requestText`, `meets_valueText`: so does a request, if its values do, and so does a value,
   if the inner messages do.
3. `meets_evaluateWithin`: so does a message, by induction on the room that is left.
-/

namespace Parlance

/-! ## Definitions -/

/-- The factories are the built-in ones, and what is remembered of them is right. -/
def Registry.IsBuiltin (lookup : Factory.PluralLookup) (r : Registry) : Prop :=
  r.factories = Factory.builtins lookup ∧ r.Sound

/-- The registry has the built-in factories. The stack may be any. -/
def Discipline.builtin (lookup : Factory.PluralLookup) : Discipline where
  registry r := r.IsBuiltin lookup
  stack _ := True

/-- The answers of the evaluation: inner messages and values must be lighter than `bound`. -/
def Evaluation.Inner.answers {bound : Nat} (inner : Evaluation.Inner bound)
    (lookup : Factory.PluralLookup) (view : View) : Answers where
  view := view
  asks m := m.weight < bound
  nested m l x := ∀ h, x = inner m h l
  takes v := v.weight < bound
  part v l o x := ∀ h, x = Evaluation.valueText view.catalog lookup inner l v h o

/-! ## The registry -/

theorem Registry.isBuiltin_builtins (lookup : Factory.PluralLookup) :
    (builtins lookup).IsBuiltin lookup :=
  ⟨rfl, sound_of_resolved_eq_nil rfl⟩

/-- The formatter for a value comes from the first factory for it, whatever is remembered. -/
theorem Registry.IsBuiltin.formatterFor {lookup : Factory.PluralLookup} {r : Registry}
    (h : r.IsBuiltin lookup) (v : Value) (l : String) (o : Options) :
    (r.formatterFor v l o).2.IsBuiltin lookup ∧
      (r.formatterFor v l o).1 = (first (Factory.builtins lookup) v >>= fun f => f.create l o) := by
  obtain ⟨hfactories, hsound⟩ := h
  have htypes : ∀ f ∈ r.factories, f.TypeDetermined := by
    rw [hfactories]
    exact Factory.builtins_typeDetermined lookup
  obtain ⟨hformatter, hsound'⟩ := formatterFor_of_sound htypes hsound v l o
  rw [hfactories] at hformatter
  exact ⟨⟨(factories_formatterFor r v l o).trans hfactories, hsound'⟩, hformatter⟩

/-! ## Composing -/

namespace Script

variable {bound : Nat} {α β : Type} {a : Answers}

theorem ensures_ofExcept (x : Except RenderError α) :
    (ofExcept x : Script bound α).Ensures a (· = x) := by
  cases x <;> rfl

theorem ensures_bind_eq {x : Except RenderError α} {f : α → Except RenderError β}
    {k : α → Script bound β} (script : Script bound α) (h : script.Ensures a (· = x))
    (hk : ∀ b, x = .ok b → (k b).Ensures a (· = f b)) :
    (script >>= k).Ensures a (· = x >>= f) := by
  refine Discipline.ensures_bind script h ?_ ?_
  · rintro b rfl
    exact hk b rfl
  · rintro e rfl
    rfl

end Script

theorem Formatter.made_bind {α : Type} {a : Answers} {v : Value} {x : Except RenderError α}
    {k : α → Except RenderError Formatter} {f : α → Except RenderError String}
    (h : ∀ b, Made a v (· = f b) (k b)) : Made a v (· = x >>= f) (x >>= k) := by
  cases x with
  | ok b => exact h b
  | error e => rfl

theorem Formatter.made_mono {a : Answers} {v : Value}
    {post post' : Except RenderError String → Prop} {made : Except RenderError Formatter}
    (hpost : ∀ x, post x → post' x) (h : Made a v post made) : Made a v post' made := by
  cases made with
  | ok formatter => exact Discipline.ensures_mono hpost _ h
  | error e => exact hpost _ h

namespace Evaluation

/-! ## Scripts -/

section

variable {size bound : Nat} {inner : Inner bound} {lookup : Factory.PluralLookup} {view : View}
  {locale : String}

theorem ensures_translated {r : Message} (h : r.weight < bound) :
    (Script.translated r locale : Script size String).Ensures (inner.answers lookup view)
      (· = inner r h locale) := by
  refine ⟨h, fun x hx => ?_⟩
  rw [hx h]
  exact Script.ensures_ofExcept _

theorem ensures_translatedKey (h : 1 < bound) (key : String) :
    (Script.translatedKey key locale : Script size String).Ensures (inner.answers lookup view)
      (· = word inner h locale key) :=
  ensures_translated (by rwa [Request.weight_ofKey])

theorem ensures_itemTexts (items : List Value) (hsize : ∀ v ∈ items, v.size < size)
    (h : ∀ v ∈ items, v.weight < bound) :
    (Factory.itemTexts locale items hsize).Ensures (inner.answers lookup view)
      (· = itemTexts view.catalog lookup inner locale items h) := by
  induction items with
  | nil => rfl
  | cons v rest ih =>
    simp only [Factory.itemTexts, itemTexts]
    refine Script.ensures_bind_eq _ ?_ fun text _ =>
      Script.ensures_bind_eq _ (ih _ _) fun others _ => rfl
    refine ⟨h v List.mem_cons_self, fun x hx => ?_⟩
    rw [hx (h v List.mem_cons_self)]
    exact Script.ensures_ofExcept _

theorem itemTexts_ne_nil {c : Catalog} {v : Value} {rest : List Value}
    {h : ∀ w ∈ v :: rest, w.weight < bound} {texts : List String}
    (htexts : itemTexts c lookup inner locale (v :: rest) h = .ok texts) : texts ≠ [] := by
  rintro rfl
  simp only [itemTexts, bind, Except.bind] at htexts
  split at htexts
  · cases htexts
  · split at htexts <;> cases htexts

theorem ensures_joined (h : 1 < bound) (joiner : Factory.Joiner) {texts : List String}
    (htexts : texts ≠ []) :
    (Factory.joined locale joiner texts : Script size String).Ensures (inner.answers lookup view)
      (· = listText (word inner h locale) joiner texts) := by
  match texts with
  | [] => exact absurd rfl htexts
  | [_] => rfl
  | [_, _] => exact Script.ensures_bind_eq _ (ensures_translatedKey h _) fun between _ => rfl
  | _ :: _ :: _ :: _ =>
    exact Script.ensures_bind_eq _ (ensures_translatedKey h _) fun comma _ =>
      Script.ensures_bind_eq _ (ensures_translatedKey h _) fun between _ => rfl

theorem ensures_pluralText (h : 1 < bound) (base : String) (tag : PluralTag) :
    (Factory.pluralText lookup base tag locale : Script size String).Ensures
      (inner.answers lookup view)
      (· = pluralText (word inner h locale) (view.catalog.contains · locale) lookup base tag) := by
  cases lookup with
  | byTag =>
    show Script.Ensures _ _
      (if tag ≠ .other ∧ view.catalog.contains (Factory.pluralKey base tag) locale = true
        then Script.translatedKey (Factory.pluralKey base tag) locale
        else Script.translatedKey (Factory.pluralKey base .other) locale)
    simp only [pluralText]
    -- For the tag other both keys are the same.
    by_cases htagged : view.catalog.contains (Factory.pluralKey base tag) locale = true
    · rw [if_pos htagged]
      by_cases htag : tag = .other
      · rw [htag, if_neg fun h => h.1 rfl]
        exact ensures_translatedKey h _
      · rw [if_pos ⟨htag, htagged⟩]
        exact ensures_translatedKey h _
    · rw [if_neg htagged, if_neg fun h => htagged h.2]
      exact ensures_translatedKey h _
  | oneFirst =>
    have hkey : (Request.ofKey (Factory.pluralKey base .one) : Message).weight < bound := by
      rwa [Request.weight_ofKey]
    refine ⟨hkey, fun x hx => ?_⟩
    simp only [pluralText, word]
    rw [← hx hkey]
    cases x with
    | ok text => rfl
    | error e =>
      dsimp only
      split
      · exact ensures_translatedKey h _
      · rfl

theorem ensures_numberFormatter {v : Value} {n : Number} (hn : v.number? = some n) (h : 1 < bound)
    (plural : Option String) :
    (Factory.numberFormatter lookup locale plural v).Ensures (inner.answers lookup view)
      (· = countedText (word inner h locale) (view.catalog.contains · locale) lookup n plural) := by
  have hnumber : (Factory.numberText locale n : Script v.size String).Ensures
      (inner.answers lookup view) (· = numberText (word inner h locale) n) :=
    Script.ensures_bind_eq _ (ensures_translatedKey h _) fun spec _ => Script.ensures_ofExcept _
  unfold Factory.numberFormatter
  rw [hn]
  refine Script.ensures_bind_eq _ hnumber fun text _ => ?_
  cases plural with
  | none => rfl
  | some base => exact Script.ensures_bind_eq _ (ensures_pluralText h base _) fun counted _ => rfl

/-- The formatter for a value has the outcome that the rules of the evaluation give, and there is
none where they refuse the value or its options. -/
theorem made_of_first (v : Value) (hv : v.weight < bound) (o : Options) :
    Formatter.Made (inner.answers lookup view) v
      (· = valueText view.catalog lookup inner locale v hv o)
      (Registry.first (Factory.builtins lookup) v >>= fun f => f.create locale o) := by
  rw [Factory.first_builtins]
  cases v with
  | string s => exact Formatter.made_bind fun _ => rfl
  | message r =>
    refine Formatter.made_bind fun _ => ?_
    exact ensures_translated (Nat.lt_of_le_of_lt (Nat.le_add_left _ 2) hv)
  | list items =>
    refine Formatter.made_bind fun _ => Formatter.made_bind fun joiner => ?_
    -- The script looks for an empty list before it formats any item, the rules look afterwards.
    cases items with
    | nil => exact ensures_translatedKey (one_lt_of_weight hv) _
    | cons first rest =>
      refine Script.ensures_bind_eq _ (ensures_itemTexts (first :: rest) _ _) fun texts htexts => ?_
      exact ensures_joined _ joiner (itemTexts_ne_nil htexts)
  | integer n =>
    refine Formatter.made_bind fun _ => Formatter.made_bind fun plural => ?_
    exact ensures_numberFormatter rfl (one_lt_of_weight hv) plural
  | float x =>
    refine Formatter.made_bind fun _ => Formatter.made_bind fun plural => ?_
    exact ensures_numberFormatter rfl (one_lt_of_weight hv) plural
  | custom i type description parts => rfl

end

/-! ## Requests -/

section

variable {d : Discipline} {lookup : Factory.PluralLookup} {s : Setting} {st : List Frame}
  {r : Message} {l : String} {nested : Message → String → Run String} {inner : Inner r.weight}

theorem meets_argumentText
    (hvalue : ∀ v h o, d.Meets st (s.format nested v l o)
      (· = valueText s.catalog lookup inner l v h o))
    (options : Options) (found : Except RenderError Value)
    (hweight : ∀ v, found = .ok v → v.weight < r.weight) :
    d.Meets st (do let v ← Run.ofExcept found; s.format nested v l options)
      (· = argumentText s.catalog lookup inner l options found hweight) := by
  refine Discipline.meets_bind (P := (· = found)) (Discipline.meets_ofExcept rfl) ?_ ?_
  · rintro v rfl
    exact hvalue v _ options
  · rintro e rfl
    rfl

/-- A request gives what the evaluation gives, if the values among its arguments do. -/
theorem meets_requestText
    (hvalue : ∀ v h o, d.Meets st (s.format nested v l o)
      (· = valueText s.catalog lookup inner l v h o)) :
    d.Meets st (s.renderRequest nested r l) (· = requestText s.catalog lookup r inner l) := by
  refine Discipline.meets_renderRequest_eq fun fragment => ?_
  cases fragment with
  | text t => exact Discipline.meets_pure rfl
  | argument reference options => exact meets_argumentText hvalue options _ _

/-- With the built-in factories a value gives what the evaluation gives, if the inner messages of
the request do. -/
theorem meets_valueText
    (hnested : ∀ m l h, (Discipline.builtin lookup).Meets st (nested m l) (· = inner m h l))
    (v : Value) (hv : v.weight < r.weight) (o : Options) :
    (Discipline.builtin lookup).Meets st (s.format nested v l o)
      (· = valueText s.catalog lookup inner l v hv o) := by
  have hformat := Discipline.meets_format (d := Discipline.builtin lookup) (s := s)
    (a := inner.answers lookup ⟨s.catalog, s.defaultLocale, st.reverse⟩) rfl
    (fun m l hm => (hnested m l hm).mono fun x hx _ => hx) ?_ v l o hv
  · exact hformat.mono fun x hx => hx hv
  · intro w l' o' registry hw hregistry
    obtain ⟨hbuiltin, hmade⟩ := hregistry.formatterFor w l' o'
    rw [hmade]
    exact ⟨hbuiltin, Formatter.made_mono (fun x hx _ => hx) (made_of_first w hw o')⟩

end

/-! ## Messages -/

/-- A lighter message equals none of those on the stack. -/
theorem any_same_eq_false {st : List Frame} {r : Message} {l : String}
    (hst : ∀ f ∈ st, r.weight < f.request.weight) : st.any (Frame.same ⟨r, l⟩) = false := by
  rw [List.any_eq_false]
  intro f hf hsame
  have hequal : r.weight = f.request.weight :=
    Request.weight_eq_of_same ((Frame.same_iff _ f).1 hsame).2
  exact Nat.ne_of_lt (hst f hf) hequal

/-- A message inside another gives what its text or its wrapped failure is. -/
theorem meets_nestedText {d : Discipline} {st : List Frame}
    {translate : Message → String → Run String} {m : Message} {around : String}
    {x : Except RenderError String}
    (h : d.Meets st (translate m (Setting.targetLocale m around)) (· = x)) :
    d.Meets st (Setting.translateNested translate m around)
      (· = nestedText m (Setting.targetLocale m around) x) := by
  refine Discipline.meets_translateNested h ?_ ?_
  · rintro text rfl
    rfl
  · rintro cause rfl
    rfl

/-- A message gives what the evaluation gives, if every message on the stack is heavier. -/
theorem meets_evaluateWithin (s : Setting) (lookup : Factory.PluralLookup) (room : Nat)
    (st : List Frame) (r : Message) (l : String)
    (hst : ∀ f ∈ st, r.weight < f.request.weight) :
    (Discipline.builtin lookup).Meets st (s.translateWithin room r l)
      (· = evaluateWithin s.catalog lookup s.maxDepth room r l) := by
  induction room generalizing st r l with
  | zero => exact Discipline.meets_fail rfl
  | succ room ih =>
    refine Discipline.meets_translateWithin_succ (fun hany => ?_) fun _ hd => ⟨trivial, ?_⟩
    · rw [any_same_eq_false hst] at hany
      cases hany
    · rw [evaluateWithin]
      refine meets_requestText (meets_valueText fun m around hm => meets_nestedText (ih _ m _ ?_))
      intro f hf
      rcases List.mem_cons.1 hf with rfl | hf
      · exact hm
      · exact Nat.lt_trans hm (hst f hf)

end Evaluation

end Parlance

import Parlance.Proofs.Evaluation.Basic
import Parlance.Proofs.Message.Nesting
import Parlance.Proofs.Rendering.Failure

/-!
# Two evaluations side by side

Two evaluations of the same request, over two catalogs and with two ways to evaluate the messages in
it. A pairing says which outcomes of the two go together. If it is respected by the rules, and the
two catalogs and the inner messages go together wherever the request looks at them, then so do the
two evaluations. There is one lemma for every rule of the evaluation, in the order of its
definition.

Results:
1. `requestText_related`: two evaluations of a request go together.
2. `evaluateWithin_related`: so do two evaluations within a number of levels, by induction on them,
   over catalogs that are alike in a scope (`Covers`).
3. `composes_failing`, `composes_agreeing`, `respects_equal`: pairings that go with the rules are
   what a single outcome may fail with, agreement up to some errors, and equality.
4. `evaluateWithin_eq_evaluate`: with one level more than the request is high, the limit makes no
   difference.
-/

namespace Parlance.Evaluation

/-! ## Definitions -/

/-- Which outcomes of two evaluations go together. -/
abbrev Pairing := (α : Type) → Except RenderError α → Except RenderError α → Prop

/-- The pairing goes with the rules for one request: it holds of equal results and of equal faults,
and goes with every way in which outcomes are composed. That a plural text is looked for a second
time after an error matters for one of the two look-ups only. -/
structure Pairing.Composes (R : Pairing) (lookup : Factory.PluralLookup) : Prop where
  ok : ∀ {α : Type} (a : α), R α (.ok a) (.ok a)
  fault : ∀ {α : Type} {e : RenderError}, e.IsFault → R α (.error e) (.error e)
  bind : ∀ {α β : Type} {x y : Except RenderError α} {f g : α → Except RenderError β},
    R α x y → (∀ a, R β (f a) (g a)) → R β (x >>= f) (y >>= g)
  plural : lookup = .oneFirst → ∀ {word word' : String → Except RenderError String}
    {has has' : String → Bool}, (∀ key, R String (word key) (word' key)) → ∀ base tag,
      R String (pluralText word has .oneFirst base tag) (pluralText word' has' .oneFirst base tag)

/-- The rules respect the pairing: it goes with those for one request, holds of an exceeded depth,
and is kept where the failure of a message is wrapped. -/
structure Pairing.Respects (R : Pairing) (lookup : Factory.PluralLookup) : Prop
    extends R.Composes lookup where
  depth : ∀ maxDepth, R String (.error (.maxDepthExceeded maxDepth))
    (.error (.maxDepthExceeded maxDepth))
  nested : ∀ r l {x y}, R String x y → R String (nestedText r l x) (nestedText r l y)

/-- Two catalogs are alike in a scope of messages and locales. With a message it has the keys that
are looked up for its arguments, and the messages in them, each in its locale. -/
structure Covers (R : Pairing) (c c' : Catalog) (scope : Message → String → Prop) : Prop where
  lookup : ∀ r l, scope r l → R Compiled (c.lookup r l) (c'.lookup r l)
  contains : ∀ r l, scope r l → ∀ key, c.contains key l = c'.contains key l
  word : ∀ r l key, scope r l → scope (Request.ofKey key) l
  inner : ∀ r l v m, scope r l → v ∈ r.arguments → v.Holds m →
    scope m (Setting.targetLocale m l)

/-! ## Composing -/

namespace Pairing.Composes

variable {R : Pairing} {lookup : Factory.PluralLookup} {α β : Type}

theorem ofFault (hR : R.Composes lookup) {x : Except RenderError α}
    (hx : ∀ e, x = .error e → e.IsFault) : R α x x := by
  cases x with
  | ok a => exact hR.ok a
  | error e => exact hR.fault (hx e rfl)

theorem mapM (hR : R.Composes lookup) {f g : α → Except RenderError β} (as : List α)
    (h : ∀ a, R β (f a) (g a)) : R (List β) (as.mapM f) (as.mapM g) := by
  induction as with
  | nil => exact hR.ok []
  | cons a rest ih =>
    rw [List.mapM_cons, List.mapM_cons]
    exact hR.bind (h a) fun b => hR.bind ih fun bs => hR.ok (b :: bs)

/-! ## Lists and numbers -/

section

variable {word word' : String → Except RenderError String} {has has' : String → Bool}

theorem listText (hR : R.Composes lookup) (hword : ∀ key, R String (word key) (word' key))
    (joiner : Factory.Joiner) (texts : List String) :
    R String (Evaluation.listText word joiner texts) (Evaluation.listText word' joiner texts) := by
  match texts with
  | [] => exact hword _
  | [only] => exact hR.ok only
  | [_, _] => exact hR.bind (hword _) fun between => hR.ok _
  | _ :: _ :: _ :: _ =>
    exact hR.bind (hword _) fun comma => hR.bind (hword _) fun between => hR.ok _

theorem pluralText (hR : R.Composes lookup) (hword : ∀ key, R String (word key) (word' key))
    (hhas : has = has') (base : String) (tag : PluralTag) :
    R String (Evaluation.pluralText word has lookup base tag)
      (Evaluation.pluralText word' has' lookup base tag) := by
  subst hhas
  cases lookup with
  | byTag => exact hword _
  | oneFirst => exact hR.plural rfl hword base tag

theorem countedText (hR : R.Composes lookup) (hword : ∀ key, R String (word key) (word' key))
    (hhas : has = has') (n : Number) (plural : Option String) :
    R String (Evaluation.countedText word has lookup n plural)
      (Evaluation.countedText word' has' lookup n plural) := by
  have hnumber : R String (numberText word n) (numberText word' n) :=
    hR.bind (hword _) fun spec => hR.ofFault fun e he => Factory.isFault_of_applyFormat he
  refine hR.bind hnumber fun text => ?_
  cases plural with
  | none => exact hR.ok text
  | some base => exact hR.bind (hR.pluralText hword hhas base _) fun counted => hR.ok _

theorem numberValue (hR : R.Composes lookup) (hword : ∀ key, R String (word key) (word' key))
    (hhas : has = has') (n : Number) (options : Options) :
    R String (Evaluation.numberValue word has lookup n options)
      (Evaluation.numberValue word' has' lookup n options) := by
  refine hR.bind (hR.ofFault fun e he => Options.isFault_of_check he) fun _ => ?_
  refine hR.bind (hR.ofFault fun e he => Options.isFault_of_text? he) fun plural => ?_
  exact hR.countedText hword hhas n plural

end

end Pairing.Composes

/-! ## Values and requests -/

section

variable {R : Pairing} {lookup : Factory.PluralLookup} {c c' : Catalog} {locale : String}

mutual

/-- Two evaluations of a value go together, if those of the words and of the messages in it do. -/
theorem valueText_related {bound : Nat} {inner inner' : Inner bound} (hR : R.Composes lookup)
    (hcontains : (c.contains · locale) = (c'.contains · locale))
    (hwords : ∀ key h,
      R String (inner (Request.ofKey key) h locale) (inner' (Request.ofKey key) h locale))
    (v : Value) (h : v.weight < bound) (options : Options)
    (hmessages : ∀ m hm, v.Holds m → R String (inner m hm locale) (inner' m hm locale)) :
    R String (valueText c lookup inner locale v h options)
      (valueText c' lookup inner' locale v h options) := by
  cases v with
  | string s =>
    exact hR.bind (hR.ofFault fun e he => Options.isFault_of_check he) fun _ => hR.ok s
  | message r =>
    exact hR.bind (hR.ofFault fun e he => Options.isFault_of_check he) fun _ =>
      hmessages r _ .message
  | list items =>
    refine hR.bind (hR.ofFault fun e he => Options.isFault_of_check he) fun _ => ?_
    refine hR.bind (hR.ofFault fun e he => Factory.isFault_of_joinerOf he) fun joiner => ?_
    refine hR.bind ?_ fun texts => hR.listText (fun key => hwords key _) joiner texts
    exact itemTexts_related hR hcontains hwords items _ fun v hv m hm hholds =>
      hmessages m hm (.item hv hholds)
  | integer n => exact hR.numberValue (fun key => hwords key _) hcontains (.integer n) options
  | float x => exact hR.numberValue (fun key => hwords key _) hcontains (.float x) options
  | custom i type description parts => exact hR.fault trivial

theorem itemTexts_related {bound : Nat} {inner inner' : Inner bound} (hR : R.Composes lookup)
    (hcontains : (c.contains · locale) = (c'.contains · locale))
    (hwords : ∀ key h,
      R String (inner (Request.ofKey key) h locale) (inner' (Request.ofKey key) h locale))
    (items : List Value) (h : ∀ v ∈ items, v.weight < bound)
    (hmessages : ∀ v ∈ items, ∀ m hm, v.Holds m →
      R String (inner m hm locale) (inner' m hm locale)) :
    R (List String) (itemTexts c lookup inner locale items h)
      (itemTexts c' lookup inner' locale items h) := by
  cases items with
  | nil => exact hR.ok []
  | cons v rest =>
    refine hR.bind ?_ fun text => hR.bind ?_ fun others => hR.ok _
    · exact valueText_related hR hcontains hwords v _ _ (hmessages v List.mem_cons_self)
    · exact itemTexts_related hR hcontains hwords rest _ fun w hw =>
        hmessages w (List.mem_cons_of_mem v hw)

end

/-- Two evaluations of a request go together, if the look-ups of its message and the evaluations of
the words and of the messages in it do. -/
theorem requestText_related {r : Message} {inner inner' : Inner r.weight} (hR : R.Composes lookup)
    (hlookup : R Compiled (c.lookup r locale) (c'.lookup r locale))
    (hcontains : ∀ key, c.contains key locale = c'.contains key locale)
    (hwords : ∀ key h,
      R String (inner (Request.ofKey key) h locale) (inner' (Request.ofKey key) h locale))
    (hmessages : ∀ v ∈ r.arguments, ∀ m hm, v.Holds m →
      R String (inner m hm locale) (inner' m hm locale)) :
    R String (requestText c lookup r inner locale) (requestText c' lookup r inner' locale) := by
  have hargument : ∀ options found (hfound : ∀ e, found = .error e → e.IsFault)
      (hmem : ∀ v, found = .ok v → v ∈ r.arguments) hweight,
      R String (argumentText c lookup inner locale options found hweight)
        (argumentText c' lookup inner' locale options found hweight) := by
    rintro options (e | v) hfound hmem hweight
    · exact hR.fault (hfound e rfl)
    · exact valueText_related hR (funext hcontains) hwords v _ options (hmessages v (hmem v rfl))
  refine hR.bind hlookup fun compiled => hR.bind (hR.mapM _ fun fragment => ?_) fun texts => hR.ok _
  cases fragment with
  | text t => exact hR.ok t
  | argument reference options =>
    exact hargument options _ (fun e he => Discipline.isFault_of_resolve he)
      (fun v hv => mem_arguments_of_resolve hv) _

/-- Nothing is nested in a request without arguments, so that only the look-ups of its message
matter. -/
theorem keyText_related {key : String} {inner inner' : Inner (Request.ofKey key : Message).weight}
    (hR : R.Composes lookup)
    (hlookup : R Compiled (c.lookup (Request.ofKey key) locale)
      (c'.lookup (Request.ofKey key) locale))
    (hcontains : ∀ key, c.contains key locale = c'.contains key locale) :
    R String (requestText c lookup (Request.ofKey key) inner locale)
      (requestText c' lookup (Request.ofKey key) inner' locale) := by
  refine requestText_related hR hlookup hcontains ?_ (List.forall_mem_nil _)
  -- No word is lighter than another.
  intro word hword
  rw [Request.weight_ofKey, Request.weight_ofKey] at hword
  exact absurd hword (Nat.lt_irrefl 1)

/-- Two evaluations go together over catalogs that are alike in the scope of the request. -/
theorem evaluateWithin_related {scope : Message → String → Prop} (hR : R.Respects lookup)
    (hcovers : Covers R c c' scope) (maxDepth room : Nat) (r : Message) (l : String)
    (h : scope r l) :
    R String (evaluateWithin c lookup maxDepth room r l)
      (evaluateWithin c' lookup maxDepth room r l) := by
  induction room generalizing r l with
  | zero => exact hR.depth maxDepth
  | succ room ih =>
    refine requestText_related hR.toComposes (hcovers.lookup r l h) (hcovers.contains r l h) ?_ ?_
    · exact fun key _ => hR.nested _ _ (ih _ _ (hcovers.word r l key h))
    · exact fun v hv m _ hholds => hR.nested _ _ (ih _ _ (hcovers.inner r l v m h hv hholds))

end

/-! ## Errors -/

/-- The first of two outcomes is a result, or an error with `P`. -/
def failing (P : RenderError → Prop) : Pairing :=
  fun _ x _ => OnError P x

theorem onError_lookup {P : RenderError → Prop} {c : Catalog}
    (h : ∀ m e, c.missing m = .error e → P e) (r : Message) (l : String) :
    OnError P (c.lookup r l) := by
  unfold Catalog.lookup
  split
  · exact .ok _
  · exact h _

theorem composes_failing {P : RenderError → Prop} (hfault : ∀ e, e.IsFault → P e)
    (lookup : Factory.PluralLookup) : (failing P).Composes lookup where
  ok a := .ok a
  fault he := .error (hfault _ he)
  bind hx hf := .bind hx hf
  plural _ _ _ _ _ hword base tag := by
    simp only [failing, pluralText] at hword ⊢
    split
    · exact .ok _
    · next e he =>
      -- Only a missing text leads to a second look-up. Any other error is passed on.
      split
      · exact hword _
      · exact .error (hword _ e he)

/-! ## Agreement -/

/-- The two outcomes are the same, unless the first is an error with `E`. -/
def agreeing (E : RenderError → Prop) : Pairing :=
  fun _ x y => y = x ∨ ∃ e, x = .error e ∧ E e

section

variable {E : RenderError → Prop} {lookup : Factory.PluralLookup}

theorem agreeing_bind {α β : Type} {x y : Except RenderError α} {f g : α → Except RenderError β}
    (h : agreeing E α x y) (hk : ∀ a, agreeing E β (f a) (g a)) :
    agreeing E β (x >>= f) (y >>= g) := by
  rcases h with rfl | ⟨e, rfl, he⟩
  · cases y with
    | ok a => exact hk a
    | error e => exact Or.inl rfl
  · -- The first outcome ends here, so that the second may go on in any way that `hk` allows.
    exact Or.inr ⟨e, rfl, he⟩

theorem agreeing_nestedText (hnested : ∀ r l cause, E cause → E (.nested r l cause)) (r : Message)
    (l : String) {x y : Except RenderError String} (h : agreeing E String x y) :
    agreeing E String (nestedText r l x) (nestedText r l y) := by
  rcases h with rfl | ⟨e, rfl, he⟩
  · exact Or.inl rfl
  · exact Or.inr ⟨.nested r l e, rfl, hnested r l e he⟩

/-- As long as the exceptions do not lead to a second look-up of a plural text, they end the first
of the two evaluations where they occur. -/
theorem composes_agreeing (hmissing : lookup = .oneFirst → ∀ e, E e → e.isMissingText = false) :
    (agreeing E).Composes lookup where
  ok _ := Or.inl rfl
  fault _ := Or.inl rfl
  bind := agreeing_bind
  plural hlookup word word' _ _ hword base tag := by
    simp only [pluralText]
    rcases hword (Factory.pluralKey base .one) with hsame | ⟨e, herror, he⟩
    · rw [hsame]
      split
      · exact Or.inl rfl
      · split
        · exact hword _
        · exact Or.inl rfl
    · rw [herror]
      dsimp only
      rw [if_neg fun h => Bool.false_ne_true ((hmissing hlookup e he).symm.trans h.1)]
      exact Or.inr ⟨e, rfl, he⟩

end

/-! ## Equality -/

/-- Equal outcomes go together. -/
def equal : Pairing :=
  fun _ x y => x = y

theorem respects_equal (lookup : Factory.PluralLookup) : equal.Respects lookup where
  ok _ := rfl
  fault _ := rfl
  depth _ := rfl
  bind hxy hfg := by
    obtain rfl := hxy
    obtain rfl : _ = _ := funext hfg
    rfl
  nested r l _ _ h := congrArg (nestedText r l) h
  plural _ _ _ _ _ hword base tag := by
    obtain rfl : _ = _ := funext hword
    rfl

/-! ## The limit -/

section

variable {c : Catalog} {lookup : Factory.PluralLookup}

theorem evaluateWithin_succ_ofKey (maxDepth room : Nat) (key locale : String) :
    evaluateWithin c lookup maxDepth (room + 1) (Request.ofKey key) locale =
      evaluate c lookup (Request.ofKey key) locale := by
  rw [evaluate, evaluateWithin]
  exact keyText_related (respects_equal lookup).toComposes rfl fun _ => rfl

/-- With one level more than the request is high, the limit makes no difference: the last one is for
the words and formats of the catalog. -/
theorem evaluateWithin_eq_evaluate {maxDepth room : Nat} {r : Message} (h : r.height + 1 ≤ room)
    (locale : String) :
    evaluateWithin c lookup maxDepth room r locale = evaluate c lookup r locale := by
  induction room generalizing r locale with
  | zero => omega
  | succ room ih =>
    rw [evaluate, evaluateWithin]
    refine requestText_related (respects_equal lookup).toComposes rfl (fun _ => rfl) ?_ ?_
    · intro key _
      -- The request itself takes a level, so at least one is left for a word.
      have hpos := r.height_pos
      obtain ⟨left, rfl⟩ : ∃ left, room = left + 1 := ⟨room - 1, by omega⟩
      exact congrArg (nestedText _ _) (evaluateWithin_succ_ofKey maxDepth left key _)
    · intro v hv m _ hholds
      have hle := Value.height_le_of_holds hholds
      have hlt := Request.height_lt_of_mem hv
      exact congrArg (nestedText _ _) (ih (by omega) _)

end

end Parlance.Evaluation

import Mathlib.Order.WithBot
import Parlance.Proofs.Message.Nesting
import Parlance.Proofs.Number.Tag

/-!
# Equality of requests and values

By equality a request is recognised that is still being rendered, so equality must not tell apart
what is the same request, and must not take a request for one inside of it. It is no equivalence:
what is no number equals nothing, and so does not what holds it.

Results:
1. `Finite.sameNumber_iff`, `Binary64.sameNumber_iff`: doubles are equal as numbers.
2. `Value.same_trans`: equality is transitive.
3. `Value.same_self_iff`: what equals itself.
4. `Value.same_withoutLocales`, `Request.same_withLocale`: the preferred locales take no part, at
   any depth.
5. `Request.same_eq_false_of_nests`: no request equals one that is nested in it.
6. `equality_laws`: all of this for values and for requests.
-/

namespace Parlance

/-! ## Definitions -/

/-- The point that a double is on the line of numbers with its two ends. What is no number has
none. -/
def Binary64.point? : Binary64 → Option (WithBot (WithTop ℚ))
  | .finite x => some ((x.value : WithTop ℚ) : WithBot (WithTop ℚ))
  | .infinite negative => some (if negative then ⊥ else ⊤)
  | .nan => none

/-- A value occurs in another: it is the other, or it occurs in an item of a list or in an argument
of a message. Custom values are not opened. -/
inductive Value.OccursIn (part : Value) : Value → Prop
  | whole : OccursIn part part
  | item {v : Value} {items : List Value} :
      v ∈ items → OccursIn part v → OccursIn part (.list items)
  | argument {v : Value} {r : Message} :
      v ∈ r.arguments → OccursIn part v → OccursIn part (.message r)

/-- A value in which something occurs that is no number. -/
def Value.HasNan (v : Value) : Prop :=
  Value.OccursIn (.float .nan) v

/-- A request with an argument in which something occurs that is no number. -/
def Request.HasNan (r : Message) : Prop :=
  ∃ v ∈ r.arguments, v.HasNan

namespace Value

mutual

/-- A value without the preferred locales of the requests in it. -/
def withoutLocales : Value → Value
  | .message r => .message (requestWithoutLocales r)
  | .list items => .list (allWithoutLocales items)
  | .custom identity type text parts => .custom identity type text (allWithoutLocales parts)
  | v => v

/-- A request without its preferred locale and those of the requests in it. -/
def requestWithoutLocales : Request Value → Request Value
  | ⟨key, _, args, named⟩ => ⟨key, none, allWithoutLocales args, namedWithoutLocales named⟩

/-- Values without preferred locales. -/
def allWithoutLocales : List Value → List Value
  | [] => []
  | v :: rest => withoutLocales v :: allWithoutLocales rest

/-- Named values without preferred locales. -/
def namedWithoutLocales : List (String × Value) → List (String × Value)
  | [] => []
  | (name, v) :: rest => (name, withoutLocales v) :: namedWithoutLocales rest

end

end Value

/-- A request without its preferred locale and those of the requests in it. -/
def Request.withoutLocales (r : Message) : Message :=
  Value.requestWithoutLocales r

/-- Laws of a comparison that leaves something out of account: it is symmetric and transitive, only
an exception does not equal itself, and what differs in the part left out alone is not told
apart. -/
structure ComparesUpTo {α : Type} (bare : α → α) (exception : α → Prop) (same : α → α → Bool) :
    Prop where
  symmetric : ∀ v w, same v w = same w v
  transitive : ∀ u v w, same u v = true → same v w = true → same u w = true
  self_iff : ∀ v, same v v = true ↔ ¬exception v
  bare_only : ∀ v v' w w', bare v = bare v' → bare w = bare w' → same v w = same v' w'

/-! ## Numbers -/

/-- Finite doubles are equal if their values are. -/
theorem Finite.sameNumber_iff (x y : Finite) : x.sameNumber y = true ↔ x.value = y.value := by
  have hpos : (unitsPerOne : ℚ) ≠ 0 := Nat.cast_ne_zero.2 (Nat.ne_of_gt unitsPerOne_pos)
  have hopposite (m n : Nat) : -(m : ℚ) = n ↔ m = n ∧ m = 0 := by
    rw [neg_eq_iff_add_eq_zero, ← Nat.cast_add, Nat.cast_eq_zero]
    omega
  rw [Finite.sameNumber, Finite.value, Finite.value, div_left_inj' hpos, Bool.and_eq_true,
    Bool.or_eq_true, beq_iff_eq, beq_iff_eq, beq_iff_eq]
  cases x.negative <;> cases y.negative
  · simp
  · rw [if_neg Bool.false_ne_true, if_pos rfl, one_mul, neg_one_mul, eq_comm (a := (x.units : ℚ)),
      hopposite]
    simp only [Bool.false_eq_true, false_or]
    omega
  · rw [if_neg Bool.false_ne_true, if_pos rfl, one_mul, neg_one_mul, hopposite]
    simp
  · simp

/-- Doubles are equal if they are numbers and the same one. -/
theorem Binary64.sameNumber_iff (x y : Binary64) :
    x.sameNumber y = true ↔ ∃ q, x.point? = some q ∧ y.point? = some q := by
  cases x <;> cases y
  case finite.finite x y =>
    rw [Binary64.sameNumber, Finite.sameNumber_iff, eq_comm]
    simp [Binary64.point?]
  case infinite.infinite a b =>
    cases a <;> cases b <;> simp [Binary64.sameNumber, Binary64.point?]
  case finite.infinite x b => cases b <;> simp [Binary64.sameNumber, Binary64.point?]
  case infinite.finite a y => cases a <;> simp [Binary64.sameNumber, Binary64.point?]
  all_goals simp [Binary64.sameNumber, Binary64.point?]

theorem Binary64.sameNumber_trans {x y z : Binary64} (h : x.sameNumber y = true)
    (h' : y.sameNumber z = true) : x.sameNumber z = true := by
  obtain ⟨q, hx, hy⟩ := (sameNumber_iff x y).1 h
  obtain ⟨q', hy', hz⟩ := (sameNumber_iff y z).1 h'
  obtain rfl := Option.some.inj (hy.symm.trans hy')
  exact (sameNumber_iff x z).2 ⟨q, hx, hz⟩

theorem Binary64.sameNumber_self_iff (x : Binary64) : x.sameNumber x = true ↔ x ≠ .nan := by
  cases x <;> simp [Binary64.sameNumber, Finite.sameNumber]

/-! ## What a value equals -/

namespace Value

section

variable {w : Value} {ws : List Value}

theorem string_same_iff {s : String} : (string s).same w = true ↔ w = .string s := by
  cases w with
  | string t => simpa [same] using eq_comm
  | _ => simp [same]

theorem message_same_iff {r : Message} :
    (message r).same w = true ↔ ∃ q, w = .message q ∧ sameRequest r q = true := by
  cases w <;> simp [same]

theorem list_same_iff {items : List Value} :
    (list items).same w = true ↔ ∃ others, w = .list others ∧ sameAll items others = true := by
  cases w <;> simp [same]

theorem integer_same_iff {n : Int} : (integer n).same w = true ↔ w = .integer n := by
  cases w with
  | integer m => simpa [same] using eq_comm
  | _ => simp [same]

theorem float_same_iff {x : Binary64} :
    (float x).same w = true ↔ ∃ y, w = .float y ∧ x.sameNumber y = true := by
  cases w <;> simp [same]

/-- A custom value equals itself alone, in whatever way it is shown. -/
theorem custom_same_iff {i : Nat} {type text : String} {parts : List Value} :
    (custom i type text parts).same w = true ↔
      ∃ type' text' parts', w = .custom i type' text' parts' := by
  cases w with
  | custom j => simpa [same] using eq_comm
  | _ => simp [same]

theorem nil_sameAll_iff : sameAll [] ws = true ↔ ws = [] := by
  cases ws <;> simp [sameAll]

theorem cons_sameAll_iff {v : Value} {vs : List Value} :
    sameAll (v :: vs) ws = true ↔
      ∃ w rest, ws = w :: rest ∧ v.same w = true ∧ sameAll vs rest = true := by
  cases ws <;> simp [sameAll]

theorem nil_sameNamed_iff {ws : List (String × Value)} : sameNamed [] ws = true ↔ ws = [] := by
  cases ws <;> simp [sameNamed]

theorem cons_sameNamed_iff {name : String} {v : Value} {vs ws : List (String × Value)} :
    sameNamed ((name, v) :: vs) ws = true ↔
      ∃ w rest, ws = (name, w) :: rest ∧ v.same w = true ∧ sameNamed vs rest = true := by
  cases ws with
  | nil => simp [sameNamed]
  | cons d ws =>
    obtain ⟨other, w⟩ := d
    simp only [sameNamed, Bool.and_eq_true, beq_iff_eq, List.cons.injEq, Prod.mk.injEq]
    constructor
    · rintro ⟨⟨rfl, hv⟩, hrest⟩
      exact ⟨w, ws, ⟨⟨rfl, rfl⟩, rfl⟩, hv, hrest⟩
    · rintro ⟨_, _, ⟨⟨rfl, rfl⟩, rfl⟩, hv, hrest⟩
      exact ⟨⟨rfl, hv⟩, hrest⟩

end

/-! ## Transitivity -/

mutual

theorem same_trans (u v w : Value) (h : u.same v = true) (h' : v.same w = true) :
    u.same w = true := by
  -- The form of the first value is that of the second, and so that of the third.
  cases u with
  | string s =>
    obtain rfl := string_same_iff.1 h
    exact h'
  | message p =>
    obtain ⟨r, rfl, hr⟩ := message_same_iff.1 h
    obtain ⟨q, rfl, hq⟩ := message_same_iff.1 h'
    exact message_same_iff.2 ⟨q, rfl, sameRequest_trans p r q hr hq⟩
  | list xs =>
    obtain ⟨ys, rfl, hys⟩ := list_same_iff.1 h
    obtain ⟨zs, rfl, hzs⟩ := list_same_iff.1 h'
    exact list_same_iff.2 ⟨zs, rfl, sameAll_trans xs ys zs hys hzs⟩
  | integer n =>
    obtain rfl := integer_same_iff.1 h
    exact h'
  | float x =>
    obtain ⟨y, rfl, hy⟩ := float_same_iff.1 h
    obtain ⟨z, rfl, hz⟩ := float_same_iff.1 h'
    exact float_same_iff.2 ⟨z, rfl, Binary64.sameNumber_trans hy hz⟩
  | custom i =>
    obtain ⟨type, text, parts, rfl⟩ := custom_same_iff.1 h
    exact custom_same_iff.2 (custom_same_iff.1 h')
termination_by structural u

theorem sameRequest_trans (p r q : Request Value) (h : sameRequest p r = true)
    (h' : sameRequest r q = true) : sameRequest p q = true := by
  obtain ⟨key, locale, args, named⟩ := p
  obtain ⟨key', locale', args', named'⟩ := r
  obtain ⟨key'', locale'', args'', named''⟩ := q
  simp only [sameRequest, Bool.and_eq_true, beq_iff_eq] at h h' ⊢
  obtain ⟨⟨rfl, hargs⟩, hnamed⟩ := h
  obtain ⟨⟨rfl, hargs'⟩, hnamed'⟩ := h'
  exact ⟨⟨rfl, sameAll_trans args args' args'' hargs hargs'⟩,
    sameNamed_trans named named' named'' hnamed hnamed'⟩
termination_by structural p

theorem sameAll_trans (us vs ws : List Value) (h : sameAll us vs = true)
    (h' : sameAll vs ws = true) : sameAll us ws = true := by
  cases us with
  | nil =>
    obtain rfl := nil_sameAll_iff.1 h
    exact h'
  | cons u us =>
    obtain ⟨v, vs, rfl, huv, hrest⟩ := cons_sameAll_iff.1 h
    obtain ⟨w, ws, rfl, hvw, hrest'⟩ := cons_sameAll_iff.1 h'
    exact cons_sameAll_iff.2
      ⟨w, ws, rfl, same_trans u v w huv hvw, sameAll_trans us vs ws hrest hrest'⟩
termination_by structural us

theorem sameNamed_trans (us vs ws : List (String × Value)) (h : sameNamed us vs = true)
    (h' : sameNamed vs ws = true) : sameNamed us ws = true := by
  cases us with
  | nil =>
    obtain rfl := nil_sameNamed_iff.1 h
    exact h'
  | cons e us =>
    cases e with
    | mk name u =>
      obtain ⟨v, vs, rfl, huv, hrest⟩ := cons_sameNamed_iff.1 h
      obtain ⟨w, ws, rfl, hvw, hrest'⟩ := cons_sameNamed_iff.1 h'
      exact cons_sameNamed_iff.2
        ⟨w, ws, rfl, same_trans u v w huv hvw, sameNamed_trans us vs ws hrest hrest'⟩
termination_by structural us

end

/-! ## What equals itself -/

theorem hasNan_list_iff {items : List Value} :
    (Value.list items).HasNan ↔ ∃ v ∈ items, v.HasNan := by
  constructor
  · rintro (_ | ⟨hmem, h⟩)
    exact ⟨_, hmem, h⟩
  · rintro ⟨v, hmem, h⟩
    exact .item hmem h

theorem hasNan_message_iff {r : Message} : (Value.message r).HasNan ↔ r.HasNan := by
  constructor
  · rintro (_ | _ | ⟨hmem, h⟩)
    exact ⟨_, hmem, h⟩
  · rintro ⟨v, hmem, h⟩
    exact .argument hmem h

theorem hasNan_float_iff {x : Binary64} : (Value.float x).HasNan ↔ x = .nan := by
  constructor
  · rintro ⟨⟩
    rfl
  · rintro rfl
    exact .whole

mutual

theorem same_self_iff (v : Value) : v.same v = true ↔ ¬v.HasNan := by
  cases v with
  | message r =>
    rw [hasNan_message_iff, same, sameRequest_self_iff]
  | list items =>
    rw [hasNan_list_iff, same, sameAll_self_iff]
    simp
  | float x => rw [hasNan_float_iff, same, x.sameNumber_self_iff]
  | string s => exact iff_of_true (by simp [same]) nofun
  | integer n => exact iff_of_true (by simp [same]) nofun
  | custom i => exact iff_of_true (by simp [same]) nofun

theorem sameRequest_self_iff (r : Request Value) :
    sameRequest r r = true ↔ ¬Request.HasNan r := by
  obtain ⟨key, locale, args, named⟩ := r
  simp only [sameRequest, Bool.and_eq_true, beq_self_eq_true, true_and]
  rw [sameAll_self_iff, sameNamed_self_iff]
  simp only [Request.HasNan, Request.arguments, not_exists, not_and, List.forall_mem_append,
    List.forall_mem_map]

theorem sameAll_self_iff (vs : List Value) : sameAll vs vs = true ↔ ∀ v ∈ vs, ¬v.HasNan := by
  cases vs with
  | nil => simp [sameAll]
  | cons v vs =>
    rw [sameAll, Bool.and_eq_true, same_self_iff v, sameAll_self_iff vs, List.forall_mem_cons]

theorem sameNamed_self_iff (vs : List (String × Value)) :
    sameNamed vs vs = true ↔ ∀ e ∈ vs, ¬e.2.HasNan := by
  cases vs with
  | nil => simp [sameNamed]
  | cons e vs =>
    obtain ⟨name, v⟩ := e
    rw [sameNamed, Bool.and_eq_true, Bool.and_eq_true, same_self_iff v, sameNamed_self_iff vs,
      List.forall_mem_cons, beq_self_eq_true, eq_self, true_and]

end

/-! ## Preferred locales -/

mutual

theorem same_withoutLocales (v w : Value) : v.withoutLocales.same w = v.same w := by
  cases v with
  | message r =>
    cases w with
    | message q => simpa only [withoutLocales, same] using sameRequest_withoutLocales r q
    | _ => simp [withoutLocales, same]
  | list xs =>
    cases w with
    | list ys => simpa only [withoutLocales, same] using sameAll_withoutLocales xs ys
    | _ => simp [withoutLocales, same]
  | custom i => cases w <;> simp [withoutLocales, same]
  | _ => rw [withoutLocales] <;> nofun

theorem sameRequest_withoutLocales (r q : Request Value) :
    sameRequest (requestWithoutLocales r) q = sameRequest r q := by
  cases r with
  | mk key locale args named =>
    cases q with
    | mk key' locale' args' named' =>
      rw [requestWithoutLocales, sameRequest, sameAll_withoutLocales, sameNamed_withoutLocales,
        sameRequest]

theorem sameAll_withoutLocales (vs ws : List Value) :
    sameAll (allWithoutLocales vs) ws = sameAll vs ws := by
  cases vs with
  | nil => rw [allWithoutLocales]
  | cons v vs =>
    cases ws with
    | nil => simp [allWithoutLocales, sameAll]
    | cons w ws =>
      rw [allWithoutLocales, sameAll, sameAll, same_withoutLocales v w,
        sameAll_withoutLocales vs ws]

theorem sameNamed_withoutLocales (vs ws : List (String × Value)) :
    sameNamed (namedWithoutLocales vs) ws = sameNamed vs ws := by
  cases vs with
  | nil => rw [namedWithoutLocales]
  | cons e vs =>
    cases e with
    | mk m v =>
      cases ws with
      | nil => simp [namedWithoutLocales, sameNamed]
      | cons d ws =>
        cases d with
        | mk n w =>
          rw [namedWithoutLocales, sameNamed, sameNamed, same_withoutLocales v w,
            sameNamed_withoutLocales vs ws]

end

end Value

theorem Request.withoutLocales_withLocale (r : Message) (locale : String) :
    (r.withLocale locale).withoutLocales = r.withoutLocales := by
  cases r
  simp only [withoutLocales, withLocale, Value.requestWithoutLocales]

/-- What is not told apart from its bare form on the one side is not told apart from anything of
that form on both. -/
theorem eq_of_bare_eq {α : Type} {bare : α → α} {same : α → α → Bool}
    (hcomm : ∀ v w, same v w = same w v) (hbare : ∀ v w, same (bare v) w = same v w)
    {v v' w w' : α} (hv : bare v = bare v') (hw : bare w = bare w') : same v w = same v' w' :=
  calc
    same v w = same (bare v') w := by rw [← hv, hbare]
    _ = same (bare w') v' := by rw [hbare, hcomm, ← hw, hbare]
    _ = same v' w' := by rw [hbare, hcomm]

/-! ## Nested requests -/

/-- A request is told apart from every request that is nested in it. -/
theorem Request.same_eq_false_of_nests {r m : Message} (h : r.Nests m) : r.same m = false :=
  Bool.eq_false_iff.2 fun hsame =>
    Nat.ne_of_gt (weight_lt_of_nests h) (weight_eq_of_same hsame)

/-! ## The laws -/

theorem Value.comparesUpTo_same :
    ComparesUpTo Value.withoutLocales Value.HasNan Value.same where
  symmetric := same_comm
  transitive := same_trans
  self_iff := same_self_iff
  bare_only _ _ _ _ := eq_of_bare_eq same_comm same_withoutLocales

theorem Request.comparesUpTo_same :
    ComparesUpTo Request.withoutLocales Request.HasNan Request.same where
  symmetric := same_comm
  transitive := Value.sameRequest_trans
  self_iff := Value.sameRequest_self_iff
  bare_only _ _ _ _ := eq_of_bare_eq same_comm Value.sameRequest_withoutLocales

theorem Request.same_withLocale (r q : Message) (locale : String) :
    (r.withLocale locale).same q = r.same q :=
  comparesUpTo_same.bare_only _ _ _ _ (r.withoutLocales_withLocale locale) rfl

/-- Equality of values and of requests is symmetric and transitive, what does not equal itself is
exactly what has something in it that is no number, and preferred locales take no part on either
side, at whatever depth. Doubles are compared as numbers, custom values by their identity, and a
request never equals a request that is nested in it. -/
theorem equality_laws :
    ComparesUpTo Value.withoutLocales Value.HasNan Value.same ∧
    ComparesUpTo Request.withoutLocales Request.HasNan Request.same ∧
    (∀ x y : Binary64, (Value.float x).same (.float y) = true ↔
      ∃ q, x.point? = some q ∧ y.point? = some q) ∧
    (∀ i type text parts w, (Value.custom i type text parts).same w = true ↔
      ∃ type' text' parts', w = .custom i type' text' parts') ∧
    ∀ r m : Message, r.Nests m → r.same m = false := by
  refine ⟨Value.comparesUpTo_same, Request.comparesUpTo_same, fun x y => ?_,
    fun i type text parts w => Value.custom_same_iff, fun r m => Request.same_eq_false_of_nests⟩
  rw [Value.same, Binary64.sameNumber_iff]

/-- A note about zero, of the given sign, that prefers a locale. -/
def noteOn (negative : Bool) (locale : String) : Message :=
  ((Request.ofKey "note").name "sum" (.float (.finite (.zero negative)))).withLocale locale

/-- A note about a list with another note in it. -/
def noteAbout (note : Message) : Message :=
  (Request.ofKey "note").arg (.list [.message note])

/-- Notes about notes on both zeros are equal, in whichever locales, but not to the notes in them,
and not to themselves if they hold what is no number. -/
theorem laws_of_notes :
    let german := noteAbout (noteOn false "de")
    let italian := noteAbout (noteOn true "it")
    let french := noteAbout (noteOn false "fr")
    let undefined := noteAbout ((Request.ofKey "note").arg (.float .nan))
    (german.same italian = true ∧ italian.same french = true ∧ german.same french = true) ∧
    (german.withoutLocales = french.withoutLocales ∧
      german.same italian = french.same italian) ∧
    (german.Nests (noteOn false "de") ∧ german.same (noteOn false "de") = false) ∧
    undefined.same undefined = false := by
  intro german italian french undefined
  obtain ⟨-, hlaws, -, -, hnested⟩ := equality_laws
  have hfirst : german.same italian = true := by cbv
  have hsecond : italian.same french = true := by cbv
  have hbare : german.withoutLocales = french.withoutLocales := by cbv
  have hnests : german.Nests (noteOn false "de") :=
    .argument (List.mem_cons_self) (.item List.mem_cons_self .message)
  have hnan : undefined.HasNan :=
    ⟨_, List.mem_cons_self, .item List.mem_cons_self (.argument List.mem_cons_self .whole)⟩
  exact ⟨⟨hfirst, hsecond, hlaws.transitive _ _ _ hfirst hsecond⟩,
    ⟨hbare, hlaws.bare_only _ _ _ _ hbare rfl⟩, ⟨hnests, hnested _ _ hnests⟩,
    Bool.eq_false_iff.2 fun hsame => (hlaws.self_iff undefined).1 hsame hnan⟩

end Parlance

import Parlance.Formatter.Registry

/-!
# Resolving the formatter for a value

What a registry remembers does not change what it answers, as long as whether a factory handles a
value depends on the type of the value only.

Results:
1. `factories_formatterFor`, `mem_of_factoryFor`: looking for a formatter changes no factory and
   finds one of them.
2. `factoryFor_of_sound`: a sound registry finds the first factory that handles the value, and stays
   sound.
3. `builtins_typeDetermined`, `first_builtins`: the built-in factories are of this kind, and which
   of them is the first for a value.
-/

namespace Parlance

/-! ## Definitions -/

/-- Whether the factory handles a value depends on the type of the value only. -/
def Factory.TypeDetermined (f : Factory) : Prop :=
  ∀ v w : Value, v.type = w.type → f.canHandle v = f.canHandle w

namespace Registry

/-- The first factory that handles a value. -/
def first (factories : List Factory) (v : Value) : Except RenderError Factory :=
  match factories.find? fun f => f.canHandle v with
  | some f => .ok f
  | none => .error (.noFormatter v)

/-- What is remembered for a type is the first factory for all values of that type. -/
def Sound (r : Registry) : Prop :=
  ∀ type f, r.remembered? type = some f → ∀ v : Value, v.type = type → first r.factories v = .ok f

/-! ## Factories -/

@[simp] theorem factories_factoryFor (r : Registry) (v : Value) :
    (r.factoryFor v).2.factories = r.factories := by
  unfold factoryFor
  split
  · rfl
  · dsimp only
    split <;> rfl

@[simp] theorem factories_formatterFor (r : Registry) (v : Value) (l : String) (o : Options) :
    (r.formatterFor v l o).2.factories = r.factories := by
  have h := r.factories_factoryFor v
  unfold formatterFor
  split <;> simp_all

theorem mem_of_remembered? {r : Registry} {type : ValueType} {f : Factory}
    (h : r.remembered? type = some f) : f ∈ r.factories := by
  unfold remembered? at h
  cases hplace : r.resolved.lookup type with
  | none => simp [hplace] at h
  | some place => exact List.mem_of_getElem? (by simpa [hplace] using h)

theorem mem_of_factoryFor {r q : Registry} {v : Value} {f : Factory}
    (h : r.factoryFor v = (.ok f, q)) : f ∈ r.factories := by
  unfold factoryFor at h
  split at h
  · next g hg =>
    cases h
    exact mem_of_remembered? hg
  · dsimp only at h
    split at h
    · next g hg =>
      cases h
      exact List.mem_of_getElem? hg
    · cases h

theorem error_of_factoryFor {r q : Registry} {v : Value} {e : RenderError}
    (h : r.factoryFor v = (.error e, q)) : e = .noFormatter v := by
  unfold factoryFor at h
  split at h
  · cases h
  · dsimp only at h
    split at h <;> cases h
    rfl

/-- A formatter comes from the factory for the value. -/
theorem formatterFor_eq (r : Registry) (v : Value) (l : String) (o : Options) :
    r.formatterFor v l o =
      (((r.factoryFor v).1 >>= fun f => f.create l o), (r.factoryFor v).2) := by
  unfold formatterFor
  cases r.factoryFor v with
  | mk x q => cases x <;> rfl

/-- A factory that is remembered is found, and no factory is asked. -/
theorem factoryFor_of_remembered {r : Registry} {v : Value} {f : Factory}
    (h : r.remembered? v.type = some f) : r.factoryFor v = (.ok f, r) := by
  unfold factoryFor
  rw [h]

/-! ## Soundness -/

theorem sound_of_resolved_eq_nil {r : Registry} (h : r.resolved = []) : r.Sound := by
  intro type f hf
  simp [remembered?, h] at hf

theorem find?_eq_of_type {factories : List Factory} (h : ∀ f ∈ factories, f.TypeDetermined)
    {v w : Value} (hvw : v.type = w.type) :
    (factories.find? fun f => f.canHandle v) = factories.find? fun f => f.canHandle w := by
  induction factories with
  | nil => rfl
  | cons f rest ih =>
    rw [List.find?_cons, List.find?_cons, h f List.mem_cons_self v w hvw,
      ih fun g hg => h g (List.mem_cons_of_mem f hg)]

theorem first_eq_of_type {factories : List Factory} (h : ∀ f ∈ factories, f.TypeDetermined)
    {v w : Value} (hvw : v.type = w.type) {f : Factory} (hv : first factories v = .ok f) :
    first factories w = .ok f := by
  unfold first at hv ⊢
  rw [← find?_eq_of_type h hvw]
  cases hfind : factories.find? fun f => f.canHandle v with
  | none =>
    rw [hfind] at hv
    cases hv
  | some g =>
    rw [hfind] at hv
    exact hv

/-- The factory for a value, when none is remembered for its type. -/
theorem factoryFor_of_forgotten {r : Registry} {v : Value} (h : r.remembered? v.type = none) :
    (r.factoryFor v).1 = first r.factories v ∧
    ∀ type f, (r.factoryFor v).2.remembered? type = some f →
      (type = v.type ∧ first r.factories v = .ok f) ∨ r.remembered? type = some f := by
  unfold factoryFor first
  rw [h]
  dsimp only
  rw [List.find?_eq_getElem?_findIdx]
  cases hplace : r.factories[r.factories.findIdx fun f => f.canHandle v]? with
  | none => exact ⟨rfl, fun type f hf => Or.inr hf⟩
  | some g =>
    refine ⟨rfl, fun type f hf => ?_⟩
    unfold remembered? at hf ⊢
    simp only [remember, noteAsked, List.lookup_cons] at hf
    by_cases htype : type = v.type
    · left
      subst htype
      simp only [beq_self_eq_true] at hf
      exact ⟨rfl, congrArg Except.ok (Option.some.inj (hplace.symm.trans hf))⟩
    · right
      rw [beq_false_of_ne htype] at hf
      exact hf

/-- A sound registry of type-determined factories finds the first factory that handles the value, as
if it remembered nothing, and stays sound. -/
theorem factoryFor_of_sound {r : Registry} (htypes : ∀ f ∈ r.factories, f.TypeDetermined)
    (hsound : r.Sound) (v : Value) :
    (r.factoryFor v).1 = first r.factories v ∧ (r.factoryFor v).2.Sound := by
  cases h : r.remembered? v.type with
  | some f =>
    rw [factoryFor_of_remembered h]
    exact ⟨(hsound _ f h v rfl).symm, hsound⟩
  | none =>
    -- Only the type of this value is remembered anew, and its values share their first factory.
    obtain ⟨hfirst, hremembered⟩ := factoryFor_of_forgotten h
    refine ⟨hfirst, fun type f hf w hw => ?_⟩
    rw [factories_factoryFor]
    rcases hremembered type f hf with ⟨htype, hf⟩ | hf
    · exact first_eq_of_type htypes (htype.symm.trans hw.symm) hf
    · exact hsound type f hf w hw

theorem formatterFor_of_sound {r : Registry} (htypes : ∀ f ∈ r.factories, f.TypeDetermined)
    (hsound : r.Sound) (v : Value) (l : String) (o : Options) :
    (r.formatterFor v l o).1 = (first r.factories v >>= fun f => f.create l o) ∧
      (r.formatterFor v l o).2.Sound := by
  obtain ⟨hfirst, hsound'⟩ := factoryFor_of_sound htypes hsound v
  rw [formatterFor_eq, hfirst]
  exact ⟨rfl, hsound'⟩

end Registry

/-! ## The built-in factories -/

namespace Factory

theorem builtins_typeDetermined (lookup : PluralLookup) :
    ∀ f ∈ builtins lookup, f.TypeDetermined := by
  intro f hf v w hvw
  simp only [builtins, List.mem_cons, List.not_mem_nil, or_false] at hf
  rcases hf with rfl | rfl | rfl | rfl
  · simp only [text, hvw]
  · simp only [message, hvw]
  · simp only [list, hvw]
  · cases v <;> cases w <;> simp [Value.type] at hvw <;> rfl

/-- The built-in factory for a value. Custom values have none. -/
theorem first_builtins (lookup : PluralLookup) (v : Value) :
    Registry.first (builtins lookup) v =
      match v with
      | .string _ => .ok text
      | .message _ => .ok message
      | .list _ => .ok list
      | .integer _ => .ok (number lookup)
      | .float _ => .ok (number lookup)
      | .custom i type description parts =>
        .error (.noFormatter (.custom i type description parts)) := by
  cases v <;> rfl

end Factory

end Parlance

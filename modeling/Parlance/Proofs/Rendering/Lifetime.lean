import Parlance.Proofs.Catalog.Writes
import Parlance.Proofs.Rendering.Failure
import Parlance.Proofs.Rendering.Memory

/-!
# The life of a translator

A translator is built with the built-in factories. Later its catalog is changed, more factories are
registered and requests are translated, in any order. The factories that come later may handle a
value or not by whatever they find in it, so that what the registry remembers need not be what a
scan would find. But they come behind the built-in ones.

Results:
1. `setting_operated`: of its setting, operations change the catalog alone, by the changes among
   them.
2. `meets_knowing`, `registry_translateTo`: a property of the registry that looking for a formatter
   keeps is kept by translations.
3. `serves_operated`: at all times a value that a built-in factory handles has its formatter from
   this factory (`Registry.Serves`).
-/

namespace Parlance

/-! ## Definitions -/

namespace Translator

/-- An operation on a translator: a change of its catalog, or another call. -/
inductive Operation where
  | change (change : Catalog.Change)
  | call (call : Call)

/-- The translator after an operation. -/
def operate (t : Translator) : Operation → Translator
  | .change change => t.withCatalog (t.catalog.perform change).2
  | .call call => (t.perform call).2

/-- The translator after some operations, one after the other. -/
def operated (t : Translator) (operations : List Operation) : Translator :=
  operations.foldl operate t

/-- The changes of the catalog among some operations. -/
def changes (operations : List Operation) : List Catalog.Change :=
  operations.filterMap fun operation =>
    match operation with
    | .change change => some change
    | .call _ => none

end Translator

/-- A property of the registry holds at every moment. The factories and the stack may be any. -/
def Discipline.knowing (known : Registry → Prop) : Discipline :=
  .candid (fun _ => True) known fun _ => True

/-- The built-in factories come first, and what is remembered for a type that they handle is the one
that handles it. -/
structure Registry.Serves (lookup : Factory.PluralLookup) (r : Registry) : Prop where
  factories : ∃ more, r.factories = Factory.builtins lookup ++ more
  records : ∃ past, r.Records past
  remembered : ∀ type f, r.remembered? type = some f → ∀ v g, v.type = type →
    first (Factory.builtins lookup) v = .ok g → f = g

/-! ## The setting -/

namespace Translator

theorem setting_translateTo (t : Translator) (r : Message) (l : String) :
    (t.translateTo r l).2.setting = t.setting := by
  unfold translateTo
  obtain ⟨outcome, p⟩ := (t.setting.translateWithin t.setting.maxDepth r l).run ⟨t.registry, []⟩
  cases outcome <;> rfl

theorem setting_operate (t : Translator) (operation : Operation) :
    (t.operate operation).setting =
      { t.setting with catalog := t.catalog.after (changes [operation]) } := by
  match operation with
  | .change change => rfl
  | .call (.registry (.register f)) => rfl
  | .call (.registry (.factoryFor v)) => rfl
  | .call (.translate r locale) => exact t.setting_translateTo r _

theorem changes_cons (operation : Operation) (rest : List Operation) :
    changes (operation :: rest) = changes [operation] ++ changes rest :=
  List.filterMap_append (l := [operation])

/-- Operations change nothing of the setting but the catalog. -/
theorem setting_operated (t : Translator) (operations : List Operation) :
    (t.operated operations).setting =
      { t.setting with catalog := t.catalog.after (changes operations) } := by
  induction operations generalizing t with
  | nil => rfl
  | cons operation rest ih =>
    show ((t.operate operation).operated rest).setting = _
    rw [ih, catalog, setting_operate, changes_cons operation rest, Catalog.after, Catalog.after,
      Catalog.after, List.foldl_append]

theorem catalog_operated {default : String} {missing : MissingTextStrategy}
    {fallback : FallbackStrategy} {lookup : Factory.PluralLookup} {maxDepth : Nat}
    (operations : List Operation) :
    ((new default missing fallback lookup maxDepth).operated operations).catalog =
      (Catalog.new fallback missing).after (changes operations) := by
  rw [catalog, setting_operated]
  rfl

end Translator

/-! ## The registry -/

/-- Whatever is translated, a property of the registry that looking for a formatter keeps is kept at
every moment. -/
theorem Discipline.meets_knowing {known : Registry → Prop}
    (hknown : ∀ r v l o, known r → known (r.formatterFor v l o).2) (s : Setting) (room : Nat)
    (st : List Frame) (r : Message) (l : String) :
    (knowing known).Meets st (s.translateWithin room r l) fun _ => True :=
  (meets_translateWithin (fun _ _ => trivial) hknown (fun _ _ _ => trivial)
    (fun _ _ _ _ _ => trivial) room st rfl r l).mono fun _ _ => trivial

theorem Discipline.holds_knowing {known : Registry → Prop} {r : Registry} (h : known r) :
    (knowing known).registry r :=
  ⟨fun f _ => Factory.candid_of_forall (fun _ => trivial) f, h⟩

/-- Such a property is kept by every translation. -/
theorem Translator.registry_translateTo {known : Registry → Prop}
    (hknown : ∀ r v l o, known r → known (r.formatterFor v l o).2) {t : Translator}
    (h : known t.registry) (r : Message) (l : String) : known (t.translateTo r l).2.registry := by
  obtain ⟨_, -, -, -, -, hafter⟩ := Discipline.translateTo_of_meets
    (Discipline.meets_knowing hknown t.setting t.setting.maxDepth [] r l)
    (Discipline.holds_knowing h) trivial
  exact hafter

namespace Registry.Serves

variable {lookup : Factory.PluralLookup} {r : Registry} {v : Value} {f : Factory}

theorem builtins (lookup : Factory.PluralLookup) : (Registry.builtins lookup).Serves lookup where
  factories := ⟨[], (List.append_nil _).symm⟩
  records := ⟨[], .of_resolved_eq_nil rfl⟩
  remembered type f hf := by simp [remembered?, Registry.builtins] at hf

theorem first_eq (h : r.Serves lookup) (hfirst : first (Factory.builtins lookup) v = .ok f) :
    first r.factories v = .ok f := by
  obtain ⟨more, hmore⟩ := h.factories
  rw [hmore]
  exact first_append hfirst

/-- The factory for a value is the built-in one that handles it, if there is one. -/
theorem factoryFor_eq (h : r.Serves lookup)
    (hfirst : first (Factory.builtins lookup) v = .ok f) : (r.factoryFor v).1 = .ok f := by
  cases hremembered : r.remembered? v.type with
  | some g =>
    rw [factoryFor_of_remembered hremembered, h.remembered _ g hremembered v f rfl hfirst]
  | none => rw [(factoryFor_of_forgotten hremembered).1, h.first_eq hfirst]

theorem factoryFor (h : r.Serves lookup) (v : Value) : (r.factoryFor v).2.Serves lookup := by
  obtain ⟨past, hpast⟩ := h.records
  refine ⟨?_, ⟨_, hpast.factoryFor v⟩, fun type f hf w g hw hfirst => ?_⟩
  · rw [factories_factoryFor]
    exact h.factories
  · cases hremembered : r.remembered? v.type with
    | some k =>
      rw [factoryFor_of_remembered hremembered] at hf
      exact h.remembered type f hf w g hw hfirst
    | none =>
      rcases (factoryFor_of_forgotten hremembered).2 type f hf with ⟨htype, hf⟩ | hf
      · -- What is remembered anew was found by a scan, and so is built-in.
        have hv := first_eq_of_type (Factory.builtins_typeDetermined lookup) (hw.trans htype) hfirst
        exact Except.ok.inj (hf.symm.trans (h.first_eq hv))
      · exact h.remembered type f hf w g hw hfirst

theorem register (h : r.Serves lookup) (f : Factory) : (r.register f).Serves lookup := by
  obtain ⟨more, hmore⟩ := h.factories
  obtain ⟨past, hpast⟩ := h.records
  refine ⟨⟨more ++ [f], ?_⟩, ⟨past, hpast.register f⟩, fun type g hg => h.remembered type g ?_⟩
  · rw [← List.append_assoc, ← hmore]
    rfl
  · -- The new factory is at a place that is not remembered for any type.
    rwa [hpast.remembered, ← (hpast.register f).remembered]

theorem formatterFor (h : r.Serves lookup) (v : Value) (l : String) (o : Options) :
    (r.formatterFor v l o).2.Serves lookup := by
  rw [formatterFor_eq]
  exact h.factoryFor v

theorem formatterFor_eq_create (h : r.Serves lookup)
    (hfirst : first (Factory.builtins lookup) v = .ok f) (l : String) (o : Options) :
    (r.formatterFor v l o).1 = f.create l o := by
  rw [formatterFor_eq, h.factoryFor_eq hfirst]
  rfl

theorem operate {t : Translator} (h : t.registry.Serves lookup)
    (operation : Translator.Operation) : (t.operate operation).registry.Serves lookup := by
  match operation with
  | .change change => exact h
  | .call (.registry (.register f)) => exact h.register f
  | .call (.registry (.factoryFor v)) => exact h.factoryFor v
  | .call (.translate r locale) =>
    exact Translator.registry_translateTo (fun _ v l o hr => hr.formatterFor v l o) h r _

end Registry.Serves

/-- Whatever happens to a translator, the built-in factories serve the values that they handle. -/
theorem Translator.serves_operated {lookup : Factory.PluralLookup} {t : Translator}
    (h : t.registry.Serves lookup) (operations : List Operation) :
    (t.operated operations).registry.Serves lookup := by
  induction operations generalizing t with
  | nil => exact h
  | cons operation rest ih => exact ih (h.operate operation)

end Parlance

import Parlance.Proofs.Formatter.Resolution

/-!
# The history of a registry

Whether a factory handles a value may depend on the value itself and not only on its type. What a
registry answers then depends on all that it was asked before: the first factory found for a value
of a type stays the factory for that type, even for values that an earlier factory would handle.

Results:
1. `Records.perform`, `Records.after`: by each call and so by every sequence of calls, a registry
   comes to remember for every type the first factory that was found for it, at a place it has.
2. `Records.lookup_perform`, `Records.lookup_after`: what is remembered for a type never changes.
3. `first_resolution_wins`: what a registry answers after any sequence of calls.
-/

namespace Parlance.Registry

/-! ## Definitions -/

/-- A call of a registry. -/
inductive Call where
  | register (f : Factory)
  | factoryFor (v : Value)

/-- The answer to a call and the registry after it. There is no answer to a registration. -/
def perform (r : Registry) : Call → Option (Except RenderError Factory) × Registry
  | .register f => (none, r.register f)
  | .factoryFor v => (some (r.factoryFor v).1, (r.factoryFor v).2)

/-- The registry after some calls, one after the other. -/
def after (r : Registry) (calls : List Call) : Registry :=
  calls.foldl (fun r c => (r.perform c).2) r

/-- The factory that a call finds, with the type of the value. -/
def foundBy (r : Registry) : Call → List (ValueType × Factory)
  | .register _ => []
  | .factoryFor v =>
    match (r.factoryFor v).1 with
    | .ok f => [(v.type, f)]
    | .error _ => []

/-- The factories that some calls find, the earliest first, each with the type of the value. -/
def found (r : Registry) : List Call → List (ValueType × Factory)
  | [] => []
  | c :: rest => r.foundBy c ++ (r.perform c).2.found rest

/-- The factories that some calls register, in order. -/
def registered (calls : List Call) : List Factory :=
  calls.filterMap fun c =>
    match c with
    | .register f => some f
    | .factoryFor _ => none

/-- The factory at a place handles the value, and none before it does. -/
def FirstAt (factories : List Factory) (v : Value) (place : Nat) (f : Factory) : Prop :=
  factories[place]? = some f ∧ f.canHandle v = true ∧
    ∀ earlier < place, ∀ g, factories[earlier]? = some g → g.canHandle v = false

/-- For every type the registry remembers the first factory that was found for it, and it has all
the places that it remembers. -/
structure Records (r : Registry) (past : List (ValueType × Factory)) : Prop where
  remembered : ∀ type, r.remembered? type = past.lookup type
  places : ∀ entry ∈ r.resolved, entry.2 < r.size

/-! ## Places -/

theorem findIdx_of_firstAt {factories : List Factory} {v : Value} {place : Nat} {f : Factory}
    (h : FirstAt factories v place f) : (factories.findIdx fun g => g.canHandle v) = place := by
  obtain ⟨hplace, hf, hearlier⟩ := h
  obtain ⟨hlt, rfl⟩ := List.getElem?_eq_some_iff.1 hplace
  refine (List.findIdx_eq hlt).2 ⟨hf, fun i hi => hearlier i hi _ ?_⟩
  exact List.getElem?_eq_getElem (Nat.lt_trans hi hlt)

theorem exists_firstAt (factories : List Factory) (v : Value) :
    (∀ f ∈ factories, f.canHandle v = false) ∨ ∃ place f, FirstAt factories v place f := by
  induction factories with
  | nil => exact Or.inl fun f hf => nomatch hf
  | cons g rest ih =>
    cases hg : g.canHandle v with
    | true => exact Or.inr ⟨0, g, rfl, hg, fun i hi => absurd hi (Nat.not_lt_zero i)⟩
    | false =>
      rcases ih with hnone | ⟨place, f, hplace, hf, hearlier⟩
      · exact Or.inl fun f hf => (List.mem_cons.1 hf).elim (fun h => h ▸ hg) (hnone f)
      · refine Or.inr ⟨place + 1, f, hplace, hf, fun i hi k hk => ?_⟩
        cases i with
        | zero => exact Option.some.inj hk ▸ hg
        | succ i => exact hearlier i (Nat.lt_of_succ_lt_succ hi) k hk

theorem factoryFor_of_firstAt {r : Registry} {v : Value} {place : Nat} {f : Factory}
    (hforgotten : r.remembered? v.type = none) (h : FirstAt r.factories v place f) :
    r.factoryFor v = (.ok f, (r.noteAsked (place + 1)).remember v.type place) := by
  unfold factoryFor
  rw [hforgotten]
  dsimp only
  rw [findIdx_of_firstAt h, h.1]

theorem factoryFor_of_none {r : Registry} {v : Value} (hforgotten : r.remembered? v.type = none)
    (h : ∀ f ∈ r.factories, f.canHandle v = false) :
    r.factoryFor v = (.error (.noFormatter v), r.noteAsked r.factories.length) := by
  unfold factoryFor
  rw [hforgotten]
  dsimp only
  rw [List.findIdx_eq_length_of_false h, List.getElem?_eq_none (Nat.le_refl _)]

/-! ## One call -/

theorem remembered?_remember (r : Registry) (type : ValueType) (place : Nat) (other : ValueType) :
    (r.remember type place).remembered? other =
      if other = type then r.factories[place]? else r.remembered? other := by
  unfold remembered? remember
  rw [List.lookup_cons]
  by_cases h : other = type
  · simp [h]
  · simp [h, beq_false_of_ne h]

namespace Records

variable {r : Registry} {past : List (ValueType × Factory)}

theorem of_resolved_eq_nil (h : r.resolved = []) : r.Records [] where
  remembered type := by simp [remembered?, h]
  places entry hentry := by simp [h] at hentry

theorem lt_size (h : r.Records past) {type : ValueType} {place : Nat}
    (hplace : r.resolved.lookup type = some place) : place < r.size := by
  obtain ⟨before, rest, hresolved, _⟩ := List.lookup_eq_some_iff.1 hplace
  exact h.places (type, place) (by simp [hresolved])

theorem exists_remembered (h : r.Records past) {type : ValueType} {place : Nat}
    (hplace : r.resolved.lookup type = some place) : ∃ f, r.remembered? type = some f := by
  have hlt : place < r.factories.length := h.lt_size hplace
  exact ⟨r.factories[place], by simp [remembered?, hplace, hlt]⟩

theorem register (h : r.Records past) (f : Factory) : (r.register f).Records past where
  remembered type := by
    rw [← h.remembered type]
    cases hplace : r.resolved.lookup type with
    | none => simp [remembered?, Registry.register, hplace]
    | some place =>
      have hlt : place < r.factories.length := h.lt_size hplace
      simp [remembered?, Registry.register, hplace, List.getElem?_append_left hlt]
  places entry hentry := by
    have hlt := h.places entry hentry
    simp only [size, Registry.register, List.length_append, List.length_singleton] at hlt ⊢
    omega

theorem factoryFor (h : r.Records past) (v : Value) :
    (r.factoryFor v).2.Records (past ++ r.foundBy (.factoryFor v)) := by
  cases hremembered : r.remembered? v.type with
  | some f =>
    -- Finding a factory again adds nothing: the first one found for the type stands before it.
    refine ⟨fun type => ?_, ?_⟩
    · simp only [foundBy, factoryFor_of_remembered hremembered]
      by_cases htype : type = v.type
      · rw [List.lookup_append, ← h.remembered, htype, hremembered]
        rfl
      · simp [List.lookup_append, List.lookup_cons, beq_false_of_ne htype, h.remembered]
    · rw [factoryFor_of_remembered hremembered]
      exact h.places
  | none =>
    rcases exists_firstAt r.factories v with hnone | ⟨place, f, hfirst⟩
    · have hfactory := factoryFor_of_none hremembered hnone
      simp only [foundBy, hfactory, List.append_nil]
      exact ⟨h.remembered, h.places⟩
    · have hfactory := factoryFor_of_firstAt hremembered hfirst
      simp only [foundBy, hfactory]
      refine ⟨fun type => ?_, fun entry hentry => ?_⟩
      · rw [remembered?_remember, List.lookup_append, ← h.remembered type]
        by_cases htype : type = v.type
        · simp [htype, hremembered, noteAsked, hfirst.1]
        · simp [htype, beq_false_of_ne htype, List.lookup_cons, noteAsked, remembered?]
      · rcases List.mem_cons.1 hentry with rfl | hentry
        · exact (List.getElem?_eq_some_iff.1 hfirst.1).1
        · exact h.places entry hentry

/-- After a call the registry remembers what was found before, and what the call has found where
nothing was found before. -/
theorem perform (h : r.Records past) (c : Call) :
    (r.perform c).2.Records (past ++ r.foundBy c) := by
  cases c with
  | register f =>
    rw [foundBy, List.append_nil]
    exact h.register f
  | factoryFor v => exact h.factoryFor v

/-- A call changes nothing that is remembered. -/
theorem lookup_perform (h : r.Records past) (c : Call) {type : ValueType} {place : Nat}
    (hplace : r.resolved.lookup type = some place) :
    (r.perform c).2.resolved.lookup type = some place := by
  cases c with
  | register f => exact hplace
  | factoryFor v =>
    simp only [Registry.perform]
    cases hremembered : r.remembered? v.type with
    | some f => rwa [factoryFor_of_remembered hremembered]
    | none =>
      rcases exists_firstAt r.factories v with hnone | ⟨new, f, hfirst⟩
      · rwa [factoryFor_of_none hremembered hnone]
      · -- Something is remembered for this type, but nothing for the type of the value.
        have hne : type ≠ v.type := by
          rintro rfl
          obtain ⟨g, hg⟩ := h.exists_remembered hplace
          rw [hremembered] at hg
          cases hg
        rw [factoryFor_of_firstAt hremembered hfirst]
        simp only [remember, noteAsked, List.lookup_cons, beq_false_of_ne hne]
        exact hplace

/-! ## All calls -/

theorem after (h : r.Records past) (calls : List Call) :
    (r.after calls).Records (past ++ r.found calls) := by
  induction calls generalizing r past with
  | nil => rwa [found, List.append_nil]
  | cons c rest ih =>
    rw [found, ← List.append_assoc]
    exact ih (h.perform c)

/-- What is remembered for a type never changes. -/
theorem lookup_after (h : r.Records past) (calls : List Call) {type : ValueType} {place : Nat}
    (hplace : r.resolved.lookup type = some place) :
    (r.after calls).resolved.lookup type = some place := by
  induction calls generalizing r past with
  | nil => exact hplace
  | cons c rest ih => exact ih (h.perform c) (h.lookup_perform c hplace)

end Records

theorem after_append (r : Registry) (calls more : List Call) :
    r.after (calls ++ more) = (r.after calls).after more :=
  List.foldl_append

theorem factories_after (r : Registry) (calls : List Call) :
    (r.after calls).factories = r.factories ++ registered calls := by
  induction calls generalizing r with
  | nil => simp [after, registered]
  | cons c rest ih =>
    have hrest := ih (r.perform c).2
    cases c with
    | register f => simpa [after, perform, register, registered] using hrest
    | factoryFor v => simpa [after, perform, registered] using hrest

/-- A registry begins with nothing remembered. After any calls, the factory for a value is the one
that the earliest successful call found for a value of its type, and then nothing changes, so that
no factory is asked. If there was no such call, it is the first of the factories registered so far
that handles the value, which is then remembered; and if none does, that is the error, and nothing
is remembered. All places that are remembered exist, and what is remembered for a type never
changes. -/
theorem first_resolution_wins {start : Registry} (hstart : start.resolved = [])
    (calls : List Call) :
    (start.after calls).factories = start.factories ++ registered calls ∧
    (∀ v,
      match (start.found calls).lookup v.type with
      | some f => (start.after calls).factoryFor v = (.ok f, start.after calls)
      | none =>
        (∀ place f, FirstAt (start.after calls).factories v place f →
          (start.after calls).factoryFor v =
            (.ok f, ((start.after calls).noteAsked (place + 1)).remember v.type place)) ∧
        ((∀ f ∈ (start.after calls).factories, f.canHandle v = false) →
          ((start.after calls).factoryFor v).1 = .error (.noFormatter v) ∧
          ((start.after calls).factoryFor v).2.resolved = (start.after calls).resolved)) ∧
    (∀ entry ∈ (start.after calls).resolved, entry.2 < (start.after calls).size) ∧
    ∀ more type place, (start.after calls).resolved.lookup type = some place →
      (start.after (calls ++ more)).resolved.lookup type = some place := by
  have hrecords : (start.after calls).Records (start.found calls) :=
    (Records.of_resolved_eq_nil hstart).after calls
  refine ⟨factories_after start calls, fun v => ?_, hrecords.places, fun more type place h => ?_⟩
  · have hremembered := hrecords.remembered v.type
    cases hfound : (start.found calls).lookup v.type with
    | some f =>
      rw [hfound] at hremembered
      exact factoryFor_of_remembered hremembered
    | none =>
      rw [hfound] at hremembered
      refine ⟨fun place f => factoryFor_of_firstAt hremembered, fun hnone => ?_⟩
      rw [factoryFor_of_none hremembered hnone]
      exact ⟨rfl, rfl⟩
  · rw [after_append]
    exact hrecords.lookup_after more h

/-! ## A factory that handles one text only -/

/-- A factory that handles one text and no other. -/
def exactly (text : String) : Factory where
  name := "exactly"
  canHandle v :=
    match v with
    | .string s => s == text
    | _ => false
  create _ _ := .ok Factory.textFormatter

/-- The text `a` has no factory at first and then the general one, after which so has the text `b`,
though there is a factory before that would handle it. -/
def lateCalls : List Call :=
  [.register (exactly "b"), .factoryFor (.string "a"), .register Factory.text,
   .factoryFor (.string "a"), .register (exactly "a")]

theorem first_resolution_of_lateCalls :
    empty.resolved = [] ∧
    (exactly "b").canHandle (.string "b") = true ∧
    (empty.after lateCalls).factoryFor (.string "b") =
      (.ok Factory.text, empty.after lateCalls) ∧
    (empty.after lateCalls).resolved = [(.string, 1)] ∧
    (∀ entry ∈ (empty.after lateCalls).resolved, entry.2 < (empty.after lateCalls).size) ∧
    ((empty.after lateCalls).factoryFor (.integer 3)).1 = .error (.noFormatter (.integer 3)) := by
  have hhistory := @first_resolution_wins empty rfl lateCalls
  have hfound : (empty.found lateCalls).lookup .string = some Factory.text := rfl
  have hinteger : (empty.found lateCalls).lookup .integer = none := rfl
  have htext := hhistory.2.1 (.string "b")
  have hnumber := hhistory.2.1 (.integer 3)
  simp only [Value.type, hfound] at htext
  simp only [Value.type, hinteger] at hnumber
  refine ⟨rfl, rfl, htext, rfl, hhistory.2.2.1, (hnumber.2 fun f hf => ?_).1⟩
  rw [hhistory.1] at hf
  rcases List.mem_cons.1 hf with rfl | hf
  · rfl
  · rcases List.mem_cons.1 hf with rfl | hf
    · rfl
    · obtain rfl := List.mem_singleton.1 hf
      rfl

end Parlance.Registry

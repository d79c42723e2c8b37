import Parlance.Translator.Basic

/-!
# Changing a catalog in place

The calls that store messages change one catalog in place, which others read: what such a call has
stored before it fails stays stored. Here they are written as programs in that sense, step by step.
The functions that give a new catalog are what these programs come to (`on_register`, `on_load`,
`on_registerBuiltins`), so that a call that fails has stored nothing.
-/

namespace Parlance.Catalog

/-! ## Definitions -/

/-- A program that changes a catalog in place. It gives a result or fails, and leaves the catalog as
its last step left it in both cases. -/
abbrev Edit (ε α : Type) := ExceptT ε (StateM Catalog) α

namespace Edit

variable {ε α : Type}

/-- The outcome of a program and the catalog after it. -/
def on (edit : Edit ε α) (c : Catalog) : Except ε α × Catalog :=
  edit.run.run c

/-- Stores a compiled message. -/
def registerCompiled (key locale : String) (compiled : Compiled) : Edit ε Unit :=
  modify fun c => c.registerCompiled key locale compiled

/-- Stores compiled messages, one after the other. -/
def storeAll (locale : String) : List (String × Compiled) → Edit ε Unit
  | [] => pure ()
  | (key, compiled) :: rest => do
    registerCompiled key locale compiled
    storeAll locale rest

/-- Compiles a pattern and stores it. -/
def register (key locale : String) (pattern : Pattern) : Edit PatternError Unit := do
  let compiled ← MonadExcept.ofExcept pattern.compile
  registerCompiled key locale compiled

/-- Decodes a document, compiles its patterns and stores them one after the other. Gives how many
they are. -/
def load (locale text : String) : Edit LoadError Nat := do
  let messages ← MonadExcept.ofExcept (compileDocument locale text)
  storeAll locale messages
  return messages.length

/-- Stores the English texts of the built-in keys. -/
def registerBuiltins (locale : String) : Edit ε Unit :=
  storeAll locale (builtinMessages.map fun m => (m.1, Compiled.ofText m.2))

/-! ## Outcomes -/

theorem on_bind {β : Type} (edit : Edit ε α) (next : α → Edit ε β) (c : Catalog) :
    (edit >>= next).on c =
      match edit.on c with
      | (.ok a, after) => (next a).on after
      | (.error e, after) => (.error e, after) := by
  change (ExceptT.bindCont next (edit.on c).1 (edit.on c).2 : Except ε β × Catalog) = _
  obtain ⟨_ | a, after⟩ := edit.on c <;> rfl

theorem on_registerCompiled (key locale : String) (compiled : Compiled) (c : Catalog) :
    (registerCompiled key locale compiled : Edit ε Unit).on c =
      (.ok (), c.registerCompiled key locale compiled) :=
  rfl

theorem on_storeAll (locale : String) (messages : List (String × Compiled)) (c : Catalog) :
    (storeAll locale messages : Edit ε Unit).on c =
      (.ok (), { c with store := c.store.insertAll locale messages }) := by
  induction messages generalizing c with
  | nil => rfl
  | cons m rest ih => exact ih (c.registerCompiled m.1 locale m.2)

theorem on_register (key locale : String) (pattern : Pattern) (c : Catalog) :
    (register key locale pattern).on c =
      match c.register key locale pattern with
      | .ok after => (.ok (), after)
      | .error e => (.error e, c) := by
  unfold register Catalog.register
  cases pattern.compile with
  | error e => rfl
  | ok compiled => rfl

theorem on_load (locale text : String) (c : Catalog) :
    (load locale text).on c =
      match c.load locale text with
      | .ok (after, count) => (.ok count, after)
      | .error e => (.error e, c) := by
  unfold load Catalog.load
  cases compileDocument locale text with
  | error e => rfl
  | ok messages =>
    change (storeAll locale messages >>= fun _ => pure messages.length).on c = _
    rw [on_bind, on_storeAll]
    rfl

theorem on_registerBuiltins (locale : String) (t : Translator) :
    (registerBuiltins locale : Edit ε Unit).on t.catalog =
      (.ok (), (t.registerBuiltins locale).catalog) := by
  rw [registerBuiltins, on_storeAll]
  rfl

end Edit

end Parlance.Catalog

import Parlance.Formatter.Registry

/-!
# Steps of a rendering

Rendering threads its progress: the registry, which remembers formatters, and the stack of the
messages that are being rendered. Progress is kept when a step fails.

A rendering tells two things of a progress to begin with: what it makes of it, and every progress it
passes through on the way. Only the first is computed when a message is rendered. The second is
there to speak about what holds at every moment, and not only when all is done.
-/

namespace Parlance

/-- What changes while a message is rendered: the registry, and the messages that are being
rendered, the innermost first. -/
structure Progress where
  registry : Registry
  stack : List Frame

/-- A rendering. `run` gives the outcome and the progress made, `moments` every progress from the
first to the last. -/
structure Run (α : Type) where
  run : Progress → Except RenderError α × Progress
  moments : Progress → List Progress
  start_mem : ∀ p, p ∈ moments p
  end_mem : ∀ p, (run p).2 ∈ moments p

namespace Run

variable {α β : Type}

/-! ## Composing -/

/-- A single step. -/
def step (act : Progress → Except RenderError α × Progress) : Run α where
  run := act
  moments p := [p, (act p).2]
  start_mem := by simp
  end_mem := by simp

/-- A rendering that is already decided. -/
def ofExcept (x : Except RenderError α) : Run α :=
  step fun p => (x, p)

/-- A rendering that fails. -/
def fail (e : RenderError) : Run α :=
  ofExcept (.error e)

/-- Goes on with the result of a rendering, if it has one. -/
def bind (m : Run α) (k : α → Run β) : Run β where
  run p :=
    match m.run p with
    | (.ok a, q) => (k a).run q
    | (.error e, q) => (.error e, q)
  moments p :=
    m.moments p ++
      match m.run p with
      | (.ok a, q) => (k a).moments q
      | (.error _, _) => []
  start_mem p := List.mem_append_left _ (m.start_mem p)
  end_mem p := by
    have h := m.end_mem p
    cases hm : m.run p with
    | mk x q =>
      cases x with
      | ok a => exact List.mem_append_right _ ((k a).end_mem q)
      | error e => exact List.mem_append_left _ (by simpa [hm] using h)

instance : Monad Run where
  pure a := ofExcept (.ok a)
  bind := bind

/-- The outcome of a rendering as a value. -/
def outcome (m : Run α) : Run (Except RenderError α) where
  run p := (.ok (m.run p).1, (m.run p).2)
  moments := m.moments
  start_mem := m.start_mem
  end_mem := m.end_mem

/-! ## Steps -/

/-- Looks at the progress. -/
def look : Run Progress :=
  step fun p => (.ok p, p)

/-- The formatter for a value in a locale and with options. -/
def formatterFor (v : Value) (locale : String) (options : Options) : Run Formatter :=
  step fun p =>
    let (formatter, registry) := p.registry.formatterFor v locale options
    (formatter, { p with registry := registry })

/-- The keys of the messages from the outermost to a frame on top of a stack. -/
def keysTo (frame : Frame) (stack : List Frame) : List String :=
  (frame :: stack).reverse.map fun f => f.request.key

/-- Puts a frame on the stack, unless its message is already being rendered in its locale. -/
def enter (frame : Frame) : Run Unit :=
  step fun p =>
    if p.stack.any frame.same then (.error (.cyclicReference (keysTo frame p.stack)), p)
    else (.ok (), { p with stack := frame :: p.stack })

/-- Takes the innermost frame from the stack. -/
def leave : Run Unit :=
  step fun p => (.ok (), { p with stack := p.stack.drop 1 })

/-! ## Running -/

@[simp] theorem run_step (act : Progress → Except RenderError α × Progress) (p : Progress) :
    (step act).run p = act p := rfl

@[simp] theorem run_ofExcept (x : Except RenderError α) (p : Progress) :
    (ofExcept x).run p = (x, p) := rfl

@[simp] theorem run_fail (e : RenderError) (p : Progress) :
    (fail e : Run α).run p = (.error e, p) := rfl

@[simp] theorem run_pure (a : α) (p : Progress) : (pure a : Run α).run p = (.ok a, p) := rfl

@[simp] theorem run_outcome (m : Run α) (p : Progress) :
    m.outcome.run p = (.ok (m.run p).1, (m.run p).2) := rfl

theorem run_bind_of_ok {m : Run α} {k : α → Run β} {p q : Progress} {a : α}
    (h : m.run p = (.ok a, q)) : (m >>= k).run p = (k a).run q := by
  show (m.bind k).run p = _
  simp [bind, h]

theorem run_bind_of_error {m : Run α} {k : α → Run β} {p q : Progress} {e : RenderError}
    (h : m.run p = (.error e, q)) : (m >>= k).run p = (.error e, q) := by
  show (m.bind k).run p = _
  simp [bind, h]

end Run

end Parlance

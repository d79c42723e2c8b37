import Parlance.Translator.Run

/-!
# Rendering

A message is rendered by its compiled pattern: texts as they are, arguments by the formatter for
their value. Messages inside messages are rendered the same way, on a stack that refuses a message
that is already being rendered and any message beyond the depth allowed.
-/

namespace Parlance

/-- What does not change while a message is rendered. -/
structure Setting where
  catalog : Catalog
  defaultLocale : String
  maxDepth : Nat

/-! ## Scripts -/

/-- Runs a script. `see` is what it can look at, `nested` translates a message for it, and `part`
formats a smaller value. -/
def Script.run {bound : Nat} {α : Type} (see : Progress → View)
    (nested : Message → String → Run String)
    (part : (v : Value) → v.size < bound → String → Options → Run String) :
    Script bound α → Run α
  | .done a => pure a
  | .fail e => .fail e
  | .translate r l next => do
    let x ← Run.outcome (nested r l)
    (next x).run see nested part
  | .format v h l o next => do
    let x ← Run.outcome (part v h l o)
    (next x).run see nested part
  | .inspect next => do
    let p ← Run.look
    (next (see p)).run see nested part

/-! ## Arguments -/

/-- The argument of a request that a reference names. -/
def Reference.resolve (reference : Reference) (r : Message) : Except RenderError Value :=
  match reference with
  | .position n =>
    match r.args[n]? with
    | some v => .ok v
    | none => .error (.argumentIndex n r.args.length)
  | .name n =>
    match r.named? n with
    | some v => .ok v
    | none => .error (.argumentName n (Dict.names r.named))

namespace Setting

/-! ## Values and fragments -/

/-- What a script can look at. -/
def view (s : Setting) (p : Progress) : View :=
  ⟨s.catalog, s.defaultLocale, p.stack.reverse⟩

/-- The text of a value in a locale and with options, by the formatter for it. -/
def format (s : Setting) (nested : Message → String → Run String) (v : Value) (locale : String)
    (options : Options) : Run String := do
  let formatter ← Run.formatterFor v locale options
  (formatter v).run s.view nested fun part _ l o => s.format nested part l o
termination_by v.size

/-- The text of a fragment of the pattern for a request. -/
def renderFragment (s : Setting) (nested : Message → String → Run String) (r : Message)
    (locale : String) : Fragment → Run String
  | .text t => pure t
  | .argument reference options => do
    let v ← Run.ofExcept (reference.resolve r)
    s.format nested v locale options

/-- The text of fragments, one after the other up to the first that fails. -/
def renderFragments (s : Setting) (nested : Message → String → Run String) (r : Message)
    (locale : String) : List Fragment → Run String
  | [] => pure ""
  | fragment :: rest => do
    let text ← s.renderFragment nested r locale fragment
    let others ← s.renderFragments nested r locale rest
    return text ++ others

/-- The text of a request by its message in the catalog. -/
def renderRequest (s : Setting) (nested : Message → String → Run String) (r : Message)
    (locale : String) : Run String := do
  let compiled ← Run.ofExcept (s.catalog.lookup r locale)
  s.renderFragments nested r locale compiled.fragments

/-! ## Messages -/

/-- The locale of a message inside another: the one it prefers, else the one around it. -/
def targetLocale (r : Message) (around : String) : String :=
  r.locale.getD around

/-- A message inside another. Its failure is wrapped with its request and locale. -/
def translateNested (translate : Message → String → Run String) (r : Message) (around : String) :
    Run String := do
  match ← Run.outcome (translate r (targetLocale r around)) with
  | .ok text => return text
  | .error cause => .fail (.nested r (targetLocale r around) cause)

/-- The text of a message in a locale, with `room` for more messages on the stack. -/
def translateWithin (s : Setting) : (room : Nat) → Message → (locale : String) → Run String
  | 0, _, _ => .fail (.maxDepthExceeded s.maxDepth)
  | room + 1, r, locale => do
    Run.enter ⟨r, locale⟩
    let text ← Run.outcome (s.renderRequest (translateNested (s.translateWithin room)) r locale)
    Run.leave
    Run.ofExcept text

end Setting

end Parlance

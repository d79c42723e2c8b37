import Parlance.Pattern.Basic
import Parlance.Translator.Error

/-!
# Checking options

Formatters refuse options they do not know and options of the wrong kind.
-/

namespace Parlance.Options

/-- Refuses the first option that is not among the allowed ones. -/
def check (formatter : String) (options : Options) (allowed : List String) :
    Except RenderError Unit :=
  match options.names.find? fun name => !allowed.contains name with
  | .none => .ok ()
  | some name =>
    let fault := if allowed.isEmpty then .takesNone else .notAllowed allowed
    .error (.invalidOption formatter name fault)

/-- A text option, which may be absent. -/
def text? (formatter : String) (options : Options) (name : String) :
    Except RenderError (Option String) :=
  match options.get? name with
  | .none => .ok .none
  | some (.string s) => .ok (some s)
  | some found => .error (.invalidOption formatter name (.notAString found))

end Parlance.Options

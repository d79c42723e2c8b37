import Parlance.Json.Writer
import Parlance.Message.Description
import Parlance.Number.Spec

/-!
# Why a message could not be rendered

The causes of failure, and what a person is told of them. A failure inside a nested message is
wrapped once for each message around it, so that an error tells the way from the outermost request
to the cause.
-/

namespace Parlance

/-! ## Errors -/

/-- What is wrong with an option. -/
inductive OptionFault where
  | takesNone
  | notAllowed (allowed : List String)
  | notAString (found : Json)
  | notAJoiner (found : String)

/-- Why a message could not be rendered. -/
inductive RenderError where
  | argumentIndex (index len : Nat)
  | argumentName (name : String) (available : List String)
  | noFormatter (value : Value)
  | unexpectedValue (formatter : String) (type : ValueType)
  | missingText (key locale : String) (searched suggestions : List String)
  | invalidOption (formatter option : String) (fault : OptionFault)
  | numberSpec (error : SpecError)
  | cyclicReference (chain : List String)
  | maxDepthExceeded (maxDepth : Nat)
  | nested (request : Message) (locale : String) (cause : RenderError)

/-- The failure of a request: the request, the locale it was translated to and the cause. -/
structure TranslateError where
  request : Message
  locale : String
  cause : RenderError

/-! ## Messages -/

/-- What is wrong, as the error of the option says it. -/
def OptionFault.message : OptionFault → String
  | .takesNone => "this formatter takes no options"
  | .notAllowed allowed => "expected one of: " ++ String.intercalate ", " allowed
  | .notAString found => "expected a string, got " ++ found.compact
  | .notAJoiner found => "expected \"and\" or \"or\", got \"" ++ found ++ "\""

/-- The names that a request does have, behind the one it lacks. -/
def availableText (available : List String) : String :=
  if available.isEmpty then "" else ", available: " ++ String.intercalate ", " available

/-- The suggestions behind a missing text. -/
def suggestionText (suggestions : List String) : String :=
  if suggestions.isEmpty then ""
  else "; did you mean: " ++ String.intercalate ", " suggestions ++ "?"

/-- The text that leads from a failed request to its cause. -/
def failureLead (request : Message) (locale : String) : String :=
  "error translating " ++ request.description ++ ", locale=" ++ Text.quoted locale ++ ": "

namespace RenderError

/-- What a person is told of an error. -/
def message : RenderError → String
  | .argumentIndex index len =>
    "argument index " ++ toString index ++ " out of range, message has " ++ toString len ++
      " positional arguments"
  | .argumentName name available =>
    "missing named argument '" ++ name ++ "'" ++ availableText available
  | .noFormatter value =>
    "no formatter can handle " ++ value.type.text ++ " value " ++ value.description
  | .unexpectedValue formatter type =>
    formatter ++ " formatter cannot render " ++ type.text ++ " value"
  | .missingText key locale searched suggestions =>
    "missing text for '" ++ key ++ "' in locale '" ++ locale ++ "' (searched: " ++
      String.intercalate ", " searched ++ ")" ++ suggestionText suggestions
  | .invalidOption formatter option fault =>
    "invalid option '" ++ option ++ "' for " ++ formatter ++ " formatter: " ++ fault.message
  | .numberSpec error => error.message
  | .cyclicReference chain =>
    "cyclic message reference detected: " ++ String.intercalate " -> " chain
  | .maxDepthExceeded maxDepth =>
    "maximum message nesting depth " ++ toString maxDepth ++ " exceeded"
  | .nested request locale cause => failureLead request locale ++ message cause

/-- The innermost error. -/
def root : RenderError → RenderError
  | .nested _ _ cause => root cause
  | e => e

/-- Whether an error is a missing text, or wraps one. -/
def isMissingText : RenderError → Bool
  | .missingText .. => true
  | .nested _ _ cause => isMissingText cause
  | _ => false

/-- The nested requests that failed, the outermost first, each with its locale. -/
def frames : RenderError → List (Message × String)
  | .nested request locale cause => (request, locale) :: frames cause
  | _ => []

end RenderError

namespace TranslateError

/-- What a person is told of an error. -/
def message (e : TranslateError) : String :=
  failureLead e.request e.locale ++ e.cause.message

/-- The innermost error. -/
def root (e : TranslateError) : RenderError :=
  e.cause.root

/-- Whether the cause is a missing text, or wraps one. -/
def isMissingText (e : TranslateError) : Bool :=
  e.cause.isMissingText

/-- The requests that failed, the outermost first, each with its locale. -/
def frames (e : TranslateError) : List (Message × String) :=
  (e.request, e.locale) :: e.cause.frames

end TranslateError

end Parlance

import Parlance.Formatter.Options
import Parlance.Formatter.Script
import Parlance.Number.Rendering

/-!
# The built-in formatters

Texts are shown as they are and messages are translated. Lists are joined the way a sentence does,
and numbers are written by a format. The words and formats for both are messages of the catalog
under the keys named here, so that a locale can have its own.
-/

namespace Parlance

/-! ## Keys -/

/-- The text of an empty list. -/
def listEmptyKey : String := "list.empty"

/-- The text between the items of a list but the last two. -/
def listCommaKey : String := "list.comma"

/-- The text before the last item of a list whose items all count. -/
def listAndKey : String := "list.and"

/-- The text before the last item of a list of alternatives. -/
def listOrKey : String := "list.or"

/-- The format of whole numbers. -/
def integerFormatKey : String := "number.int"

/-- The format of other numbers. -/
def floatFormatKey : String := "number.float"

/-- The English text for each of these keys. -/
def builtinMessages : List (String × String) :=
  [(listEmptyKey, ""), (listCommaKey, ", "), (listAndKey, " and "), (listOrKey, " or "),
   (integerFormatKey, "%d"), (floatFormatKey, "%.2f")]

namespace Factory

/-! ## Texts -/

/-- Shows a text as it is. -/
def textFormatter : Formatter
  | .string s => .done s
  | v => .fail (.unexpectedValue "string" v.type)

/-- The factory for texts. -/
def text : Factory where
  name := "string"
  canHandle v := v.type == .string
  create _ options := do
    options.check "string" []
    return textFormatter

/-! ## Messages -/

/-- Translates a message. -/
def messageFormatter (locale : String) : Formatter
  | .message r => .translated r locale
  | v => .fail (.unexpectedValue "message" v.type)

/-- The factory for messages. -/
def message : Factory where
  name := "message"
  canHandle v := v.type == .message
  create locale options := do
    options.check "message" []
    return messageFormatter locale

/-! ## Lists -/

/-- What the last two items of a list are joined by. -/
inductive Joiner where
  | conjunction
  | disjunction
  deriving DecidableEq

/-- The key of a joiner's text. -/
def Joiner.key : Joiner → String
  | .conjunction => listAndKey
  | .disjunction => listOrKey

/-- The option that chooses the joiner. -/
def joinerOption : String := "type"

/-- The joiner that the options of a list choose. -/
def joinerOf (options : Options) : Except RenderError Joiner := do
  match ← options.text? "list" joinerOption with
  | none => return .conjunction
  | some "and" => return .conjunction
  | some "or" => return .disjunction
  | some other => throw (.invalidOption "list" joinerOption (.notAJoiner other))

/-- The texts of the items, formatted one after the other without options. -/
def itemTexts {bound : Nat} (locale : String) :
    (items : List Value) → (∀ v ∈ items, v.size < bound) → Script bound (List String)
  | [], _ => .done []
  | v :: rest, h => do
    let text ← .formatted v (h v (List.mem_cons_self ..)) locale .none
    let others ← itemTexts locale rest fun w hw => h w (List.mem_cons_of_mem _ hw)
    return text :: others

/-- The texts of at least one item as a list: the last two are joined by the joiner, all before them
by the comma. Words that are not needed are not translated. -/
def joined {bound : Nat} (locale : String) (joiner : Joiner) : List String → Script bound String
  | [] => .done ""
  | [only] => .done only
  | [first, last] => do
    let word ← .translatedKey joiner.key locale
    return first ++ word ++ last
  | first :: second :: third :: rest => do
    let texts := first :: second :: third :: rest
    let comma ← .translatedKey listCommaKey locale
    let word ← .translatedKey joiner.key locale
    return String.intercalate comma texts.dropLast ++ word ++ texts.getLastD ""

/-- Joins the items of a list. -/
def listFormatter (locale : String) (joiner : Joiner) : Formatter
  | .list [] => .translatedKey listEmptyKey locale
  | .list (first :: rest) => do
    let items := first :: rest
    let texts ← itemTexts locale items fun _ h =>
      Value.size_lt_of_mem_parts (v := .list items) h
    joined locale joiner texts
  | v => .fail (.unexpectedValue "list" v.type)

/-- The factory for lists. -/
def list : Factory where
  name := "list"
  canHandle v := v.type == .list
  create locale options := do
    options.check "list" [joinerOption]
    let joiner ← joinerOf options
    return listFormatter locale joiner

/-! ## Numbers -/

/-- How the plural text of a number is found: by its tag if there is a message for it, or with the
tag one first, whatever the number is. -/
inductive PluralLookup where
  | byTag
  | oneFirst
  deriving DecidableEq

/-- The option that names the base key of the plural texts. -/
def pluralOption : String := "plural"

/-- The key of a plural text. -/
def pluralKey (base : String) (tag : PluralTag) : String :=
  base ++ "." ++ tag.text

/-- The key of the format for a number. -/
def formatKey : Number → String
  | .integer _ => integerFormatKey
  | .float _ => floatFormatKey

/-- A number written in a format. -/
def applyFormat (spec : String) (v : Number) : Except RenderError String :=
  match NumberSpec.parse spec with
  | .error e => .error (.numberSpec e)
  | .ok spec =>
    match spec.apply v with
    | .error e => .error (.numberSpec e)
    | .ok text => .ok text

/-- The plural text of a number with the given tag. -/
def pluralText {bound : Nat} (lookup : PluralLookup) (base : String) (tag : PluralTag)
    (locale : String) : Script bound String :=
  match lookup with
  | .byTag => .inspect fun view =>
    let tagged := pluralKey base tag
    if tag ≠ .other ∧ view.catalog.contains tagged locale then .translatedKey tagged locale
    else .translatedKey (pluralKey base .other) locale
  | .oneFirst => .translate (Request.ofKey (pluralKey base .one)) locale fun
    | .ok text => .done text
    | .error e =>
      if e.isMissingText ∧ tag ≠ .other then .translatedKey (pluralKey base .other) locale
      else .fail e

/-- A number in the format of the locale. -/
def numberText {bound : Nat} (locale : String) (v : Number) : Script bound String := do
  let spec ← .translatedKey (formatKey v) locale
  .ofExcept (applyFormat spec v)

/-- Writes a number, with its plural text behind it if a base key is given. -/
def numberFormatter (lookup : PluralLookup) (locale : String) (plural : Option String) :
    Formatter :=
  fun v =>
    match v.number? with
    | none => .fail (.unexpectedValue "number" v.type)
    | some n => do
      let text ← numberText locale n
      match plural with
      | none => return text
      | some base =>
        let counted ← pluralText lookup base n.pluralTag locale
        return text ++ " " ++ counted

/-- The factory for numbers. -/
def number (lookup : PluralLookup) : Factory where
  name := "number"
  canHandle v := v.number?.isSome
  create locale options := do
    options.check "number" [pluralOption]
    let plural ← options.text? "number" pluralOption
    return numberFormatter lookup locale plural

/-- The built-in factories, in the order in which they are tried. -/
def builtins (lookup : PluralLookup) : List Factory :=
  [text, message, list, number lookup]

end Factory

end Parlance

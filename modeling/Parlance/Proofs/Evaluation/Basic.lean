import Parlance.Formatter.Builtin
import Parlance.Proofs.Message.Measure
import Parlance.Translator.Rendering

/-!
# Evaluating requests

What a request means with the built-in formatters, told by recursion on the request alone. There is
no stack, no limit of depth, no search for cycles, and no registry that remembers anything:

* the message of a request is the first along the chain of the locale, else what the strategy for
  missing texts gives; its fragments are evaluated from left to right and joined;
* a text is taken as it is; a message is evaluated in the locale it prefers, else in the one around
  it; lists and numbers follow the rules of their formatters, with the words and formats of the
  catalog, which are evaluated as requests without arguments.

Whatever is nested in a request is lighter than the request, so the recursion ends. The rules take
the evaluation of lighter messages as a parameter (`Inner`). Tied to itself this gives `evaluate`;
tied to a number of levels it gives `evaluateWithin`.
-/

namespace Parlance.Evaluation

/-! ## Definitions -/

/-- What the messages lighter than `bound` evaluate to in the locale around them. -/
abbrev Inner (bound : Nat) :=
  (m : Message) → m.weight < bound → String → Except RenderError String

/-- The text of a key in a locale. -/
def word {bound : Nat} (inner : Inner bound) (h : 1 < bound) (locale key : String) :
    Except RenderError String :=
  inner (Request.ofKey key) (by rwa [Request.weight_ofKey]) locale

/-- The texts of the items of a list as one text. A comma is looked up for three items or more, a
joiner for two or more. -/
def listText (word : String → Except RenderError String) (joiner : Factory.Joiner) :
    List String → Except RenderError String
  | [] => word listEmptyKey
  | [only] => .ok only
  | [first, last] => do
    let between ← word joiner.key
    return first ++ between ++ last
  | texts => do
    let comma ← word listCommaKey
    let between ← word joiner.key
    return String.intercalate comma texts.dropLast ++ between ++ texts.getLastD ""

/-- The plural text for a tag. -/
def pluralText (word : String → Except RenderError String) (has : String → Bool)
    (lookup : Factory.PluralLookup) (base : String) (tag : PluralTag) :
    Except RenderError String :=
  match lookup with
  | .byTag =>
    let tagged := Factory.pluralKey base tag
    word (if has tagged then tagged else Factory.pluralKey base .other)
  | .oneFirst =>
    match word (Factory.pluralKey base .one) with
    | .ok text => .ok text
    | .error e =>
      if e.isMissingText ∧ tag ≠ .other then word (Factory.pluralKey base .other) else .error e

/-- A number in the format of the locale. -/
def numberText (word : String → Except RenderError String) (n : Number) :
    Except RenderError String := do
  let spec ← word (Factory.formatKey n)
  Factory.applyFormat spec n

/-- A number with its plural text behind it, if a base key is given. -/
def countedText (word : String → Except RenderError String) (has : String → Bool)
    (lookup : Factory.PluralLookup) (n : Number) (plural : Option String) :
    Except RenderError String := do
  let text ← numberText word n
  match plural with
  | none => return text
  | some base =>
    let counted ← pluralText word has lookup base n.pluralTag
    return text ++ " " ++ counted

/-- The text of a number as the options say. -/
def numberValue (word : String → Except RenderError String) (has : String → Bool)
    (lookup : Factory.PluralLookup) (n : Number) (options : Options) :
    Except RenderError String := do
  options.check "number" [Factory.pluralOption]
  let plural ← options.text? "number" Factory.pluralOption
  countedText word has lookup n plural

section

variable (c : Catalog) (lookup : Factory.PluralLookup)

theorem one_lt_of_weight {v : Value} {bound : Nat} (h : v.weight < bound) : 1 < bound :=
  Nat.lt_of_lt_of_le (Nat.lt_of_succ_le v.two_le_weight) (Nat.le_of_lt h)

mutual

/-- The text of a value. -/
def valueText {bound : Nat} (inner : Inner bound) (locale : String) :
    (v : Value) → v.weight < bound → Options → Except RenderError String
  | .string s, _, options => do
    options.check "string" []
    return s
  | .message r, h, options => do
    options.check "message" []
    inner r (Nat.lt_of_le_of_lt (Nat.le_add_left _ 2) h) locale
  | .list items, h, options => do
    options.check "list" [Factory.joinerOption]
    let joiner ← Factory.joinerOf options
    let texts ← itemTexts inner locale items fun _ hv => Nat.lt_trans (Value.weight_lt_of_mem hv) h
    listText (word inner (one_lt_of_weight h) locale) joiner texts
  | .integer n, h, options =>
    numberValue (word inner (one_lt_of_weight h) locale) (c.contains · locale) lookup (.integer n)
      options
  | .float x, h, options =>
    numberValue (word inner (one_lt_of_weight h) locale) (c.contains · locale) lookup (.float x)
      options
  | .custom i type description parts, _, _ =>
    .error (.noFormatter (.custom i type description parts))

/-- The texts of the items of a list, which take no options. -/
def itemTexts {bound : Nat} (inner : Inner bound) (locale : String) :
    (items : List Value) → (∀ v ∈ items, v.weight < bound) → Except RenderError (List String)
  | [], _ => return []
  | v :: rest, h => do
    let text ← valueText inner locale v (h v List.mem_cons_self) .none
    let others ← itemTexts inner locale rest fun w hw => h w (List.mem_cons_of_mem v hw)
    return text :: others

end

/-- The value that a reference names is an argument. -/
theorem mem_arguments_of_resolve {reference : Reference} {r : Message} {v : Value}
    (h : reference.resolve r = .ok v) : v ∈ r.arguments := by
  unfold Reference.resolve at h
  cases reference with
  | position n =>
    cases hn : r.args[n]? with
    | none => simp [hn] at h
    | some w =>
      obtain rfl : w = v := by simpa [hn] using h
      exact List.mem_append_left _ (List.mem_of_getElem? hn)
  | name n =>
    cases hn : r.named? n with
    | none => simp [hn] at h
    | some w =>
      obtain rfl : w = v := by simpa [hn] using h
      exact List.mem_append_right _ (List.mem_map_of_mem (Dict.mem_of_get? hn))

/-- The text of an argument, if the request has it. -/
def argumentText {bound : Nat} (inner : Inner bound) (locale : String) (options : Options) :
    (found : Except RenderError Value) → (∀ v, found = .ok v → v.weight < bound) →
    Except RenderError String
  | .ok v, h => valueText c lookup inner locale v (h v rfl) options
  | .error e, _ => .error e

/-- The text of a fragment of the message for a request. -/
def fragmentText (r : Message) (inner : Inner r.weight) (locale : String) :
    Fragment → Except RenderError String
  | .text t => .ok t
  | .argument reference options =>
    argumentText c lookup inner locale options (reference.resolve r) fun _ h =>
      Request.weight_lt_of_mem (mem_arguments_of_resolve h)

/-- The text of a request: of its fragments, from left to right. -/
def requestText (r : Message) (inner : Inner r.weight) (locale : String) :
    Except RenderError String := do
  let compiled ← c.lookup r locale
  let texts ← compiled.fragments.mapM (fragmentText c lookup r inner locale)
  return String.join texts

/-- The text of a message inside another, or its failure, wrapped with its request and locale. -/
def nestedText (m : Message) (locale : String) (text : Except RenderError String) :
    Except RenderError String :=
  text.mapError (.nested m locale)

/-- The text of a request in a locale. -/
def evaluate (r : Message) (locale : String) : Except RenderError String :=
  requestText c lookup r (fun m _ around =>
    nestedText m (Setting.targetLocale m around)
      (evaluate m (Setting.targetLocale m around))) locale
termination_by r.weight

/-- The text of a request in a locale, with `room` levels for it and the messages in it. -/
def evaluateWithin (maxDepth : Nat) : (room : Nat) → Message → (locale : String) →
    Except RenderError String
  | 0, _, _ => .error (.maxDepthExceeded maxDepth)
  | room + 1, r, locale =>
    requestText c lookup r (fun m _ around =>
      nestedText m (Setting.targetLocale m around)
        (evaluateWithin maxDepth room m (Setting.targetLocale m around))) locale

end

end Parlance.Evaluation

/-!
# Arguments

The words of a command line are options and operands. An option is a long name behind two dashes or
a letter behind one, and may take a value: behind an equals sign, behind its letter, or as the next
word, which must not look like an option then. Letters without values may share one dash. Two dashes
alone end the options. Behind an option that answers at once nothing is read.
-/

namespace Parlance.Arguments

/-! ## Options -/

/-- An option: its long name, its letter, whether it takes a value, whether it may be given more
than once, and whether it answers at once, so that nothing behind it counts. -/
structure Spec where
  name : String
  letter : Option Char := none
  takesValue : Bool := false
  repeats : Bool := false
  answers : Bool := false

/-- A word of a command line that has been read: an option with its value, or an operand. -/
inductive Item where
  | option (name : String) (value : Option String)
  | operand (word : String)

namespace Item

/-- The value of an option of the given name. -/
def valueOf? (name : String) : Item → Option String
  | .option n value => if n = name then value else none
  | .operand _ => none

/-- Whether this is an option of the given name. -/
def isOption (name : String) : Item → Bool
  | .option n _ => n == name
  | .operand _ => false

/-- The operand that this is. -/
def operand? : Item → Option String
  | .option .. => none
  | .operand word => some word

end Item

/-! ## Reading -/

/-- Whether a word is one or more options: a dash with something behind it. -/
def looksLikeOption (word : String) : Bool :=
  match word.toList with
  | '-' :: _ :: _ => true
  | _ => false

/-- The value of an option that is not written with it: the next word. -/
def nextValue : List String → Option (String × List String)
  | [] => none
  | word :: rest => if looksLikeOption word then none else some (word, rest)

/-- Splits a text at its first equals sign. -/
def splitAtEquals (text : List Char) : List Char × Option (List Char) :=
  match text.dropWhile (· != '=') with
  | [] => (text, none)
  | _ :: value => (text.takeWhile (· != '='), some value)

/-- An option by its long name, with the words behind it. -/
def readLong (specs : List Spec) (body : List Char) (rest : List String) :
    Option (List Item × List String) :=
  let (name, value) := splitAtEquals body
  match specs.find? fun s => s.name.toList == name with
  | none => none
  | some s =>
    match s.takesValue, value with
    | true, some value => some ([.option s.name (some (String.ofList value))], rest)
    | true, none => (nextValue rest).map fun (word, rest) => ([.option s.name (some word)], rest)
    | false, some _ => none
    | false, none => some ([.option s.name none], rest)

/-- Options by their letters, with the words behind them. -/
def readLetters (specs : List Spec) (rest : List String) :
    List Char → Option (List Item × List String)
  | [] => some ([], rest)
  | letter :: more =>
    match specs.find? fun s => s.letter == some letter with
    | none => none
    | some s =>
      if s.takesValue then
        match more with
        | [] => (nextValue rest).map fun (word, rest) => ([.option s.name (some word)], rest)
        | '=' :: value => some ([.option s.name (some (String.ofList value))], rest)
        | value => some ([.option s.name (some (String.ofList value))], rest)
      else if s.answers then some ([.option s.name none], rest)
      else
        (readLetters specs rest more).map fun (items, rest) =>
          (.option s.name none :: items, rest)

/-- The options of a word that looks like one, with the words behind it. -/
def readOption (specs : List Spec) (word : String) (rest : List String) :
    Option (List Item × List String) :=
  match word.toList with
  | '-' :: '-' :: body => readLong specs body rest
  | '-' :: letters => readLetters specs rest letters
  | _ => none

/-- Whether every option that may not be repeated is there at most once. -/
def respectsLimits (specs : List Spec) (items : List Item) : Bool :=
  specs.all fun s => s.repeats || (items.countP (Item.isOption s.name)) ≤ 1

/-- All words as options and operands. Every step takes a word, so their number is fuel enough. -/
def readAll (specs : List Spec) : (fuel : Nat) → List String → Option (List Item)
  | 0, _ => some []
  | _ + 1, [] => some []
  | fuel + 1, word :: rest =>
    if word = "--" then some (rest.map .operand)
    else if looksLikeOption word then
      match readOption specs word rest with
      | none => none
      | some (items, rest) => (readAll specs fuel rest).map (items ++ ·)
    else (readAll specs fuel rest).map (.operand word :: ·)

/-- The words behind a command as options and operands. -/
def read (specs : List Spec) (words : List String) : Option (List Item) :=
  (readAll specs words.length words).filter (respectsLimits specs)

/-- Whether an option that answers at once is there. -/
def isAnswered (specs : List Spec) (items : List Item) : Bool :=
  specs.any fun s => s.answers && items.any (Item.isOption s.name)

/-- The options before the first operand, and this operand with the words behind it, if there is
one. -/
def readHead (specs : List Spec) :
    (fuel : Nat) → List String → Option (List Item × Option (String × List String))
  | 0, _ => some ([], none)
  | _ + 1, [] => some ([], none)
  | fuel + 1, word :: rest =>
    if word = "--" then none
    else if looksLikeOption word then
      match readOption specs word rest with
      | none => none
      | some (items, rest) =>
        if isAnswered specs items then some (items, none)
        else (readHead specs fuel rest).map fun (more, command) => (items ++ more, command)
    else some ([], some (word, rest))

/-- The options before a command, and the command with the words behind it, if there is one. -/
def readCommand (specs : List Spec) (words : List String) :
    Option (List Item × Option (String × List String)) :=
  (readHead specs words.length words).filter fun (items, _) => respectsLimits specs items

/-! ## Looking up -/

/-- Whether an option is there. -/
def has (items : List Item) (name : String) : Bool :=
  items.any (Item.isOption name)

/-- The values of an option, in order. -/
def values (items : List Item) (name : String) : List String :=
  items.filterMap (Item.valueOf? name)

/-- The value of an option that is there at most once. -/
def value? (items : List Item) (name : String) : Option String :=
  (values items name).head?

/-- The operands, in order. -/
def operands (items : List Item) : List String :=
  items.filterMap Item.operand?

end Parlance.Arguments

import Parlance.Dict
import Parlance.Number.Basic

/-!
# Requests and values

A request says which message to show and with which arguments; where and in which language it is
shown is decided later. Arguments are values, and a value may itself be a request, a list, or a
custom value that only its owner's formatter understands.
-/

namespace Parlance

/-! ## Types -/

/-- A message to be shown, with positional and named arguments of type `α`. The named ones are a
dictionary. A request may prefer a locale. -/
structure Request (α : Type) where
  key : String
  locale : Option String := none
  args : List α := []
  named : List (String × α) := []

/-- An argument of a message.

A custom value belongs to the caller. It is known by its identity, the name of its type and the text
that diagnostics show; `parts` are the values it is made of, for the formatter that knows the
type. -/
inductive Value where
  | string (text : String)
  | message (request : Request Value)
  | list (items : List Value)
  | integer (n : Int)
  | float (x : Binary64)
  | custom (identity : Nat) (type : String) (text : String) (parts : List Value)

/-- A request whose arguments are values. -/
abbrev Message := Request Value

/-- The type of a value, by which its formatter is chosen. The name of a custom type stands for the
type: two types of the same name are one. -/
inductive ValueType where
  | string
  | message
  | list
  | integer
  | float
  | custom (name : String)
  deriving DecidableEq

/-- The name of a type in diagnostics. -/
def ValueType.text : ValueType → String
  | .string => "string"
  | .message => "message"
  | .list => "list"
  | .integer => "integer"
  | .float => "float"
  | .custom name => name

/-! ## Building requests -/

namespace Request

variable {α : Type}

/-- A request without arguments. -/
def ofKey (key : String) : Request α :=
  { key := key }

/-- Appends a positional argument. -/
def arg (r : Request α) (value : α) : Request α :=
  { r with args := r.args ++ [value] }

/-- Sets a named argument and leaves the positional ones alone. -/
def name (r : Request α) (name : String) (value : α) : Request α :=
  { r with named := Dict.insert name value r.named }

/-- Appends a positional argument and binds it to a name as well. -/
def bind (r : Request α) (name : String) (value : α) : Request α :=
  (r.name name value).arg value

/-- The same request with a preferred locale. -/
def withLocale (r : Request α) (locale : String) : Request α :=
  { r with locale := some locale }

/-- The named argument, if there is one. -/
def named? (r : Request α) (name : String) : Option α :=
  Dict.get? name r.named

end Request

/-! ## Inspecting values -/

namespace Value

/-- The type of a value. -/
def type : Value → ValueType
  | .string _ => .string
  | .message _ => .message
  | .list _ => .list
  | .integer _ => .integer
  | .float _ => .float
  | .custom _ name _ _ => .custom name

/-- The values that a formatter may hand on for formatting. The arguments of a request are not among
them: they are rendered by the pattern of their message. -/
def parts : Value → List Value
  | .list items => items
  | .custom _ _ _ parts => parts
  | _ => []

/-- The number a value is, if it is one. -/
def number? : Value → Option Number
  | .integer n => some (.integer n)
  | .float x => some (.float x)
  | _ => none

/-! ### Size -/

mutual

/-- A measure of a value that its parts stay below. -/
def size : Value → Nat
  | .list items => 1 + sizeAll items
  | .custom _ _ _ parts => 1 + sizeAll parts
  | _ => 1

/-- The sizes of some values together. -/
def sizeAll : List Value → Nat
  | [] => 0
  | v :: rest => size v + sizeAll rest

end

theorem size_le_sizeAll {v : Value} {vs : List Value} (h : v ∈ vs) : v.size ≤ sizeAll vs := by
  induction vs with
  | nil => cases h
  | cons w rest ih =>
    rcases List.mem_cons.1 h with rfl | h
    · exact Nat.le_add_right _ _
    · exact Nat.le_trans (ih h) (Nat.le_add_left _ _)

/-- A part is smaller than the value it belongs to. -/
theorem size_lt_of_mem_parts {v part : Value} (h : part ∈ v.parts) : part.size < v.size := by
  cases v with
  | list items =>
    have := @size_le_sizeAll _ items h
    simp only [size]
    omega
  | custom _ _ _ parts =>
    have := @size_le_sizeAll _ parts h
    simp only [size]
    omega
  | _ => cases h

/-! ### Equality -/

mutual

/-- Equality of values. Numbers of different kinds differ, floats are equal as numbers, custom
values if they are the same one. -/
def same : Value → Value → Bool
  | .string s, .string t => s == t
  | .message r, .message q => sameRequest r q
  | .list xs, .list ys => sameAll xs ys
  | .integer m, .integer n => m == n
  | .float x, .float y => x.sameNumber y
  | .custom i _ _ _, .custom j _ _ _ => i == j
  | _, _ => false

/-- Equality of requests: of their keys and arguments. The preferred locale takes no part. -/
def sameRequest : Request Value → Request Value → Bool
  | ⟨key, _, args, named⟩, ⟨key', _, args', named'⟩ =>
    key == key' && sameAll args args' && sameNamed named named'

/-- Equality of lists of values, one by one. -/
def sameAll : List Value → List Value → Bool
  | [], [] => true
  | v :: vs, w :: ws => same v w && sameAll vs ws
  | _, _ => false

/-- Equality of named values: of their names and of the values, one by one. -/
def sameNamed : List (String × Value) → List (String × Value) → Bool
  | [], [] => true
  | (m, v) :: vs, (n, w) :: ws => m == n && same v w && sameNamed vs ws
  | _, _ => false

end

end Value

/-- Equality of requests, whatever locale they prefer. -/
def Request.same (r q : Message) : Bool :=
  Value.sameRequest r q

end Parlance

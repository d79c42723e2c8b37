import Parlance.Pattern.Basic

/-!
# The store of compiled messages

Compiled patterns by locale and key. A locale has a table only if there is an entry in it, and both
the locales and the keys of a locale are kept in order. A later entry takes the place of an earlier
one.
-/

namespace Parlance

namespace Dict

variable {α : Type}

theorem mem_of_get? {name : String} {a : α} {entries : List (String × α)}
    (h : get? name entries = some a) : (name, a) ∈ entries := by
  induction entries with
  | nil => simp [get?] at h
  | cons e rest ih =>
    obtain ⟨n, b⟩ := e
    by_cases hn : n = name
    · subst hn
      rw [get?, if_pos rfl] at h
      obtain rfl := Option.some.inj h
      exact List.mem_cons_self ..
    · rw [get?, if_neg hn] at h
      exact List.mem_cons_of_mem _ (ih h)

theorem insert_ne_nil (name : String) (value : α) (entries : List (String × α)) :
    insert name value entries ≠ [] := by
  cases entries with
  | nil => simp [insert]
  | cons e rest =>
    rw [insert]
    split
    · simp
    · split <;> simp

end Dict

/-- The compiled messages of one locale. -/
abbrev Table := List (String × Compiled)

/-- Compiled messages by locale and key. -/
structure Store where
  tables : List (String × Table)
  ordered : Dict.Ordered tables
  tablesOrdered : ∀ t ∈ tables, Dict.Ordered t.2
  tablesInhabited : ∀ t ∈ tables, t.2 ≠ []

namespace Store

/-- The store without messages. -/
def empty : Store where
  tables := []
  ordered := List.Pairwise.nil
  tablesOrdered := by simp
  tablesInhabited := by simp

/-- The messages of a locale. -/
def table (s : Store) (locale : String) : Table :=
  (Dict.get? locale s.tables).getD []

theorem ordered_table (s : Store) (locale : String) : Dict.Ordered (s.table locale) := by
  unfold table
  cases h : Dict.get? locale s.tables with
  | none => exact List.Pairwise.nil
  | some t => exact s.tablesOrdered _ (Dict.mem_of_get? h)

/-- Puts a message under its locale and key. -/
def insert (s : Store) (locale key : String) (c : Compiled) : Store where
  tables := Dict.insert locale (Dict.insert key c (s.table locale)) s.tables
  ordered := Dict.ordered_insert _ _ s.ordered
  tablesOrdered := by
    intro t ht
    rcases Dict.mem_insert ht with rfl | ht
    · exact Dict.ordered_insert _ _ (s.ordered_table locale)
    · exact s.tablesOrdered t ht
  tablesInhabited := by
    intro t ht
    rcases Dict.mem_insert ht with rfl | ht
    · exact Dict.insert_ne_nil _ _ _
    · exact s.tablesInhabited t ht

/-- Puts several messages under one locale, one after the other. -/
def insertAll (s : Store) (locale : String) (messages : List (String × Compiled)) : Store :=
  messages.foldl (fun s m => s.insert locale m.1 m.2) s

/-- The message under exactly this locale and key. -/
def get? (s : Store) (locale key : String) : Option Compiled :=
  Dict.get? key (s.table locale)

/-- The first message for a key along a chain of locales. -/
def find? (s : Store) (chain : List String) (key : String) : Option Compiled :=
  chain.findSome? fun locale => s.get? locale key

/-- The locales with at least one message, in order. -/
def locales (s : Store) : List String :=
  Dict.names s.tables

/-- The keys of a locale, in order. -/
def keys (s : Store) (locale : String) : List String :=
  Dict.names (s.table locale)

/-- The number of messages in all locales. -/
def size (s : Store) : Nat :=
  s.tables.foldr (fun t count => t.2.length + count) 0

/-- Whether there are no messages. -/
def isEmpty (s : Store) : Bool :=
  s.size == 0

/-- What an insertion does to a look-up. -/
theorem get?_insert (s : Store) (locale key locale' key' : String) (c : Compiled) :
    (s.insert locale key c).get? locale' key'
      = if locale = locale' ∧ key = key' then some c else s.get? locale' key' := by
  unfold get? table insert
  rw [Dict.get?_insert]
  by_cases hl : locale = locale'
  · subst hl
    by_cases hk : key = key'
    · simp [hk, Dict.get?_insert]
    · simp [hk, Dict.get?_insert, table]
  · simp [hl]

end Store

end Parlance

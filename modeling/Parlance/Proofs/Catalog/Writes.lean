import Parlance.Proofs.Catalog.Editing
import Parlance.Proofs.Catalog.Store

/-!
# Writing to a catalog

Messages come into a catalog by four calls, of which some fail and some write many messages. What
the catalog holds after any sequence of them is what was written last under each locale and key.

Results:
1. `perform_eq`: a call stores what it writes, one message after the other, and nothing if it fails.
2. `after_eq`: so does every sequence of calls.
3. `get?_storeAll`: of what was written under a locale and key the last message stands there.
4. `last_write_wins`: what a catalog that was empty at first holds after any calls.
-/

namespace Parlance

/-! ## Definitions -/

namespace Store

/-- A message with its locale and key. -/
abbrev Entry := (String × String) × Compiled

/-- Puts messages under their locales and keys, one after the other. -/
def storeAll (s : Store) (entries : List Entry) : Store :=
  entries.foldl (fun s e => s.insert e.1.1 e.1.2 e.2) s

/-- The last message among those written under a locale and key. -/
def lastWrite? (entries : List Entry) (locale key : String) : Option Compiled :=
  entries.reverse.lookup (locale, key)

end Store

namespace Catalog

/-- A call that writes messages. -/
inductive Change where
  | register (key locale : String) (pattern : Pattern)
  | registerCompiled (key locale : String) (compiled : Compiled)
  | load (locale text : String)
  | registerBuiltins (locale : String)

/-- The messages that a call writes, in order. A call that fails writes none. -/
def Change.writes : Change → List Store.Entry
  | .register key locale pattern =>
    match pattern.compile with
    | .ok compiled => [((locale, key), compiled)]
    | .error _ => []
  | .registerCompiled key locale compiled => [((locale, key), compiled)]
  | .load locale text =>
    match compileDocument locale text with
    | .ok messages => messages.map fun m => ((locale, m.1), m.2)
    | .error _ => []
  | .registerBuiltins locale => builtinMessages.map fun m => ((locale, m.1), Compiled.ofText m.2)

/-- Whether a program succeeds, and the catalog after it. -/
def Edit.ends {ε α : Type} (edit : Edit ε α) (c : Catalog) : Bool × Catalog :=
  ((edit.on c).1.isOk, (edit.on c).2)

/-- Whether a call succeeds, and the catalog after it. -/
def perform (c : Catalog) : Change → Bool × Catalog
  | .register key locale pattern => (Edit.register key locale pattern).ends c
  | .registerCompiled key locale compiled =>
    (Edit.registerCompiled key locale compiled : Edit Empty Unit).ends c
  | .load locale text => (Edit.load locale text).ends c
  | .registerBuiltins locale => (Edit.registerBuiltins locale : Edit Empty Unit).ends c

/-- The catalog after some calls, one after the other. -/
def after (c : Catalog) (changes : List Change) : Catalog :=
  changes.foldl (fun c change => (c.perform change).2) c

end Catalog

/-! ## Stores -/

namespace Store

theorem get?_storeAll (s : Store) (entries : List Entry) (locale key : String) :
    (s.storeAll entries).get? locale key =
      (lastWrite? entries locale key).or (s.get? locale key) := by
  unfold storeAll lastWrite?
  induction entries generalizing s with
  | nil => rfl
  | cons e rest ih =>
    obtain ⟨⟨l, k⟩, compiled⟩ := e
    rw [List.foldl_cons, ih, List.reverse_cons, List.lookup_append, Option.or_assoc, get?_insert]
    congr 1
    by_cases heq : l = locale ∧ k = key
    · obtain ⟨rfl, rfl⟩ := heq
      simp
    · have hne : ((locale, key) == (l, k)) = false := by
        rw [beq_eq_false_iff_ne]
        rintro h
        cases h
        exact heq ⟨rfl, rfl⟩
      simp [heq, List.lookup_cons, hne]

theorem storeAll_append (s : Store) (entries more : List Entry) :
    s.storeAll (entries ++ more) = (s.storeAll entries).storeAll more :=
  List.foldl_append

theorem lastWrite?_eq_none_iff {entries : List Entry} {locale key : String} :
    lastWrite? entries locale key = none ↔ ∀ e ∈ entries, e.1 ≠ (locale, key) := by
  simp only [lastWrite?, List.lookup_eq_none_iff, List.mem_reverse, bne_iff_ne, ne_comm]

theorem lastWrite?_isSome_iff {entries : List Entry} {locale key : String} :
    (lastWrite? entries locale key).isSome ↔ ∃ e ∈ entries, e.1 = (locale, key) := by
  rw [Option.isSome_iff_ne_none, ne_eq, lastWrite?_eq_none_iff]
  simp only [ne_eq, not_forall, not_not, exists_prop]

/-- If all that is written under a locale and key is one message, then this is the last one. -/
theorem lastWrite?_eq_some_of_forall {entries : List Entry} {locale key : String}
    {compiled : Compiled} (hmem : ((locale, key), compiled) ∈ entries)
    (hsame : ∀ e ∈ entries, e.1 = (locale, key) → e.2 = compiled) :
    lastWrite? entries locale key = some compiled := by
  obtain ⟨last, hlast⟩ := Option.isSome_iff_exists.1 (lastWrite?_isSome_iff.2 ⟨_, hmem, rfl⟩)
  obtain ⟨before, after, hentries, -⟩ := List.lookup_eq_some_iff.1 hlast
  have hwritten : ((locale, key), last) ∈ entries := by
    rw [← List.mem_reverse, hentries]
    exact List.mem_append_right _ List.mem_cons_self
  exact hlast.trans (congrArg some (hsame _ hwritten rfl))

/-- Messages under different locales or keys may be stored in either order. -/
theorem storeAll_comm (s : Store) {entries others : List Entry}
    (h : ∀ e ∈ entries, ∀ e' ∈ others, e.1 ≠ e'.1) :
    (s.storeAll entries).storeAll others = (s.storeAll others).storeAll entries := by
  refine eq_of_get?_eq fun locale key => ?_
  simp only [get?_storeAll]
  by_cases hentries : ∃ e ∈ entries, e.1 = (locale, key)
  · obtain ⟨e, he, hplace⟩ := hentries
    have hothers : lastWrite? others locale key = none :=
      lastWrite?_eq_none_iff.2 fun e' he' heq => h e he e' he' (hplace.trans heq.symm)
    rw [hothers, Option.none_or, Option.none_or]
  · have hnone : lastWrite? entries locale key = none :=
      lastWrite?_eq_none_iff.2 fun e he heq => hentries ⟨e, he, heq⟩
    rw [hnone, Option.none_or, Option.none_or]

end Store

namespace Catalog

/-! ## One call -/

theorem insertAll_eq_storeAll (s : Store) (locale : String) (messages : List (String × Compiled)) :
    s.insertAll locale messages = s.storeAll (messages.map fun m => ((locale, m.1), m.2)) := by
  rw [Store.insertAll, Store.storeAll, List.foldl_map]

theorem perform_eq (c : Catalog) (change : Change) :
    (c.perform change).2 = { c with store := c.store.storeAll change.writes } := by
  cases change with
  | register key locale pattern =>
    rw [perform, Edit.ends, Edit.on_register, Catalog.register, Change.writes]
    cases pattern.compile <;> rfl
  | registerCompiled key locale compiled => rfl
  | load locale text =>
    rw [perform, Edit.ends, Edit.on_load, Catalog.load, Change.writes]
    cases compileDocument locale text with
    | error e => rfl
    | ok messages =>
      change { c with store := c.store.insertAll locale messages } = _
      rw [insertAll_eq_storeAll]
  | registerBuiltins locale =>
    rw [perform, Edit.ends, Edit.registerBuiltins, Edit.on_storeAll, Change.writes,
      insertAll_eq_storeAll, List.map_map]
    rfl

theorem writes_of_failure {c : Catalog} {change : Change} (h : (c.perform change).1 = false) :
    change.writes = [] := by
  cases change with
  | register key locale pattern =>
    rw [perform, Edit.ends, Edit.on_register, Catalog.register] at h
    rw [Change.writes]
    cases hcompile : pattern.compile with
    | error e => rfl
    | ok compiled =>
      rw [hcompile] at h
      cases h
  | registerCompiled key locale compiled => cases h
  | load locale text =>
    rw [perform, Edit.ends, Edit.on_load, Catalog.load] at h
    rw [Change.writes]
    cases hcompile : compileDocument locale text with
    | error e => rfl
    | ok messages =>
      rw [hcompile] at h
      cases h
  | registerBuiltins locale =>
    rw [perform, Edit.ends, Edit.registerBuiltins, Edit.on_storeAll] at h
    cases h

/-! ## All calls -/

theorem after_eq (c : Catalog) (changes : List Change) :
    c.after changes = { c with store := c.store.storeAll (changes.flatMap Change.writes) } := by
  unfold after
  induction changes generalizing c with
  | nil => rfl
  | cons change rest ih =>
    rw [List.foldl_cons, ih, perform_eq, List.flatMap_cons, Store.storeAll_append]

theorem get?_after_new (fallback : FallbackStrategy) (missing : MissingTextStrategy)
    (changes : List Change) (key locale : String) :
    ((new fallback missing).after changes).get? key locale =
      Store.lastWrite? (changes.flatMap Change.writes) locale key := by
  rw [after_eq, get?, Store.get?_storeAll]
  exact Option.or_none

/-- Take a catalog that was empty at first, after any calls, and any next call. Under each locale
and key stands the message that was written there last. A call that fails writes nothing and changes
nothing. Calls that write under different locales or keys may change places. The locales come in
strict order and are those with a message, which are those to which something was written; the keys
of a locale come in strict order and are those with a message; and the messages are counted by the
keys of all locales. -/
theorem last_write_wins (fallback : FallbackStrategy) (missing : MissingTextStrategy)
    (changes : List Change) :
    let c := (new fallback missing).after changes
    (∀ key locale,
      c.get? key locale = Store.lastWrite? (changes.flatMap Change.writes) locale key) ∧
    (∀ change, (c.perform change).1 = false → change.writes = [] ∧ (c.perform change).2 = c) ∧
    (∀ change change', (∀ e ∈ change.writes, ∀ e' ∈ change'.writes, e.1 ≠ e'.1) →
      c.after [change, change'] = c.after [change', change]) ∧
    c.store.locales.Pairwise (· < ·) ∧
    (∀ locale, (locale ∈ c.store.locales ↔ ∃ key, (c.get? key locale).isSome) ∧
      (locale ∈ c.store.locales ↔ ∃ e ∈ changes.flatMap Change.writes, e.1.1 = locale)) ∧
    (∀ locale, (c.store.keys locale).Pairwise (· < ·) ∧
      ∀ key, key ∈ c.store.keys locale ↔ (c.get? key locale).isSome) ∧
    c.store.size = (c.store.locales.map fun locale => (c.store.keys locale).length).sum ∧
    (c.store.isEmpty = true ↔ c.store.locales = []) := by
  intro c
  have hget : ∀ key locale,
      c.get? key locale = Store.lastWrite? (changes.flatMap Change.writes) locale key :=
    get?_after_new fallback missing changes
  refine ⟨hget, fun change hfailure => ?_, fun change change' hne => ?_, c.store.locales_pairwise,
    fun locale => ⟨Store.mem_locales_iff, ?_⟩,
    fun locale => ⟨c.store.keys_pairwise locale, fun key => Store.mem_keys_iff⟩,
    c.store.size_eq_sum, Store.isEmpty_iff⟩
  · have hwrites := writes_of_failure hfailure
    refine ⟨hwrites, ?_⟩
    rw [perform_eq, hwrites]
    rfl
  · simp only [after_eq, List.flatMap_cons, List.flatMap_nil, List.append_nil,
      Store.storeAll_append, Store.storeAll_comm c.store hne]
  · have hsome : ∀ key, (c.store.get? locale key).isSome ↔
        ∃ e ∈ changes.flatMap Change.writes, e.1 = (locale, key) := by
      intro key
      rw [← Store.lastWrite?_isSome_iff, ← hget]
      rfl
    simp only [Store.mem_locales_iff, hsome]
    constructor
    · rintro ⟨key, e, he, hplace⟩
      exact ⟨e, he, congrArg Prod.fst hplace⟩
    · rintro ⟨⟨⟨l, key⟩, compiled⟩, he, rfl⟩
      exact ⟨key, _, he, rfl⟩

/-- Calls of which the first fails, the second has nothing to write, and the fourth fails on the
second of its messages. -/
def listing : List Change :=
  [.register "size" "de" (.segments [.unsupported .null]), .load "fr" "\x7b\x7d",
    .load "de" "\x7b\"color\":\"Farbe\",\"shape\":\"Form\"\x7d",
    .load "de" "\x7b\"color\":\"rot\",\"shape\":[null]\x7d",
    .registerBuiltins "en", .registerCompiled "list.and" "en" (Compiled.ofText "and")]

theorem last_write_of_listing :
    let c := (new (Locale.truncatingChain "en") failFast).after listing
    (c.perform (.register "size" "de" (.segments [.unsupported .null]))).1 = false ∧
    (c.perform (.register "size" "de" (.segments [.unsupported .null]))).2 = c ∧
    c.get? "list.and" "en" = some (Compiled.ofText "and") ∧
    c.get? "color" "de" = some (Compiled.ofText "Farbe") ∧
    c.get? "size" "de" = none ∧
    c.store.locales = ["de", "en"] ∧
    c.store.keys "de" = ["color", "shape"] := by
  intro c
  have hwins := last_write_wins (Locale.truncatingChain "en") failFast listing
  have hfailure : (c.perform (.register "size" "de" (.segments [.unsupported .null]))).1 = false :=
    rfl
  refine ⟨hfailure, (hwins.2.1 _ hfailure).2, (hwins.1 "list.and" "en").trans ?_,
    (hwins.1 "color" "de").trans ?_, (hwins.1 "size" "de").trans ?_, ?_, ?_⟩
  · cbv
  · cbv
  · cbv
  · cbv
  · cbv

end Catalog

end Parlance

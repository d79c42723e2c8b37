import Parlance.Proofs.Catalog.Document
import Parlance.Proofs.Catalog.Editing
import Parlance.Proofs.Catalog.Store
import Parlance.Proofs.Text.Bytes

/-!
# Loading a document

A document is decoded, then its patterns are compiled, and only then are the messages stored. Of
several patterns under one key the last counts.

Results:
1. `forall₂_of_compileMembers`, `exists_error_of_compileMembers`: patterns are compiled one by one,
   up to the first bad one.
2. `Catalog.load_all_or_nothing`: what loading comes to, for every text.
-/

namespace Parlance

/-! ## Definitions -/

/-- The pattern is what the last member of this key says. -/
def Document.LastPattern (fields : List (String × Json)) (key : String) (p : Pattern) : Prop :=
  ∃ j, Dict.last? key fields = some j ∧ Pattern.ofJson? j = some p

/-- The pattern can be compiled. -/
def Pattern.Compiles (p : Pattern) : Prop :=
  ∃ compiled, p.compile = .ok compiled

/-! ## Compiling -/

theorem forall₂_of_compileMembers {locale : String} {members : List (String × Pattern)}
    {messages : List (String × Compiled)} (h : compileMembers locale members = .ok messages) :
    List.Forall₂ (Dict.Alike fun p compiled => p.compile = .ok compiled) members messages := by
  induction members generalizing messages with
  | nil =>
    cases h
    exact .nil
  | cons m rest ih =>
    obtain ⟨key, p⟩ := m
    rw [compileMembers] at h
    cases hp : p.compile with
    | error e =>
      rw [hp] at h
      cases h
    | ok compiled =>
      rw [hp] at h
      cases hrest : compileMembers locale rest with
      | error e =>
        rw [hrest] at h
        cases h
      | ok others =>
        rw [hrest] at h
        cases h
        exact .cons ⟨rfl, hp⟩ (ih hrest)

theorem exists_error_of_compileMembers {locale : String} {members : List (String × Pattern)}
    {e : LoadError} (h : compileMembers locale members = .error e) :
    ∃ before key p after fault, members = before ++ (key, p) :: after ∧
      (∀ m ∈ before, m.2.Compiles) ∧ p.compile = .error fault ∧ e = .pattern key locale fault := by
  induction members with
  | nil => cases h
  | cons m rest ih =>
    obtain ⟨key, p⟩ := m
    rw [compileMembers] at h
    cases hp : p.compile with
    | error fault =>
      rw [hp] at h
      cases h
      exact ⟨[], key, p, rest, fault, rfl, List.forall_mem_nil _, hp, rfl⟩
    | ok compiled =>
      rw [hp] at h
      cases hrest : compileMembers locale rest with
      | ok others =>
        rw [hrest] at h
        cases h
      | error e' =>
        rw [hrest] at h
        cases h
        obtain ⟨before, k, q, after, fault, rfl, hbefore, hq, rfl⟩ := ih hrest
        refine ⟨(key, p) :: before, k, q, after, fault, rfl, fun m hm => ?_, hq, rfl⟩
        rcases List.mem_cons.1 hm with rfl | hm
        · exact ⟨compiled, hp⟩
        · exact hbefore m hm

/-! ## The last patterns -/

section

variable {fields : List (String × Json)} {members : List (String × Pattern)}

theorem Document.lastPattern_iff (h : List.Forall₂ Document.IsMember fields members) {key : String}
    {p : Pattern} : Document.LastPattern fields key p ↔ Dict.last? key members = some p := by
  have hlast := Dict.rel_last? h key
  unfold Document.LastPattern
  generalize Dict.last? key fields = found at hlast
  generalize Dict.last? key members = given at hlast
  cases hlast with
  | none => simp
  | some hj => simp [hj]

theorem Document.isSome_of_forall₂ (h : List.Forall₂ Document.IsMember fields members) :
    ∀ f ∈ fields, (Pattern.ofJson? f.2).isSome := by
  have hboth := h.imp fun f m hm => And.intro (Option.isSome_of_eq_some hm.2) hm
  exact ((List.forall₂_and_left _ _).1 hboth).1

theorem Document.exists_lastPattern (h : List.Forall₂ Document.IsMember fields members)
    {key : String} (hkey : key ∈ Dict.names fields) : ∃ p, Document.LastPattern fields key p := by
  rw [Dict.names_eq_of_alike h, ← Dict.last?_isSome_iff] at hkey
  obtain ⟨p, hp⟩ := Option.isSome_iff_exists.1 hkey
  exact ⟨p, (Document.lastPattern_iff h).2 hp⟩

/-- The patterns that are compiled are the last ones. -/
theorem get?_ofMembers_iff (h : List.Forall₂ Document.IsMember fields members) {key : String}
    {p : Pattern} :
    Dict.get? key (Dict.ofMembers members) = some p ↔ Document.LastPattern fields key p := by
  rw [Dict.get?_ofMembers, Document.lastPattern_iff h]

/-- If compiling succeeds, it has compiled every last pattern. -/
theorem exists_compiled_of_lastPattern (h : List.Forall₂ Document.IsMember fields members)
    {locale : String} {messages : List (String × Compiled)}
    (hmessages : compileMembers locale (Dict.ofMembers members) = .ok messages) {key : String}
    {p : Pattern} (hlast : Document.LastPattern fields key p) :
    ∃ compiled, p.compile = .ok compiled ∧ Dict.last? key messages = some compiled := by
  have hrel := Dict.rel_last? (forall₂_of_compileMembers hmessages) key
  rw [Dict.last?_of_ordered (Dict.ordered_ofMembers members), (get?_ofMembers_iff h).2 hlast]
    at hrel
  generalize Dict.last? key messages = found at hrel
  cases hrel with
  | some hcompiled => exact ⟨_, hcompiled, rfl⟩

theorem names_of_compileMembers (h : List.Forall₂ Document.IsMember fields members)
    {locale : String} {messages : List (String × Compiled)}
    (hmessages : compileMembers locale (Dict.ofMembers members) = .ok messages) {key : String} :
    key ∈ Dict.names messages ↔ key ∈ Dict.names fields := by
  rw [← Dict.names_eq_of_alike (forall₂_of_compileMembers hmessages), Dict.mem_names_ofMembers,
    Dict.names_eq_of_alike h]

theorem length_of_compileMembers (h : List.Forall₂ Document.IsMember fields members)
    {locale : String} {messages : List (String × Compiled)}
    (hmessages : compileMembers locale (Dict.ofMembers members) = .ok messages) :
    messages.length = (Dict.names fields).toFinset.card := by
  rw [← (forall₂_of_compileMembers hmessages).length_eq, Dict.length_ofMembers,
    Dict.names_eq_of_alike h]

/-- The error is that of the smallest key whose last pattern cannot be compiled. -/
theorem smallest_of_compileMembers (h : List.Forall₂ Document.IsMember fields members)
    {locale : String} {e : LoadError}
    (he : compileMembers locale (Dict.ofMembers members) = .error e) :
    ∃ key p fault, Document.LastPattern fields key p ∧ p.compile = .error fault ∧
      (∀ key' p', Document.LastPattern fields key' p' → key' < key → p'.Compiles) ∧
      e = .pattern key locale fault := by
  obtain ⟨before, key, p, after, fault, heq, hbefore, hp, rfl⟩ := exists_error_of_compileMembers he
  have hordered : Dict.Ordered (before ++ (key, p) :: after) :=
    heq ▸ Dict.ordered_ofMembers members
  have hlast : Document.LastPattern fields key p := by
    rw [← get?_ofMembers_iff h, heq]
    exact Dict.get?_of_mem hordered (by simp)
  refine ⟨key, p, fault, hlast, hp, fun key' p' hlast' hlt => ?_, rfl⟩
  have hmem : (key', p') ∈ before ++ (key, p) :: after :=
    heq ▸ Dict.mem_of_get? ((get?_ofMembers_iff h).2 hlast')
  rcases List.mem_append.1 hmem with hmem | hmem
  · exact hbefore _ hmem
  · -- All keys from the bad one on are at least as large.
    have hafter := (List.pairwise_append.1 hordered).2.1
    rcases List.mem_cons.1 hmem with heq' | hmem
    · cases heq'
      exact absurd hlt (String.lt_irrefl key)
    · exact absurd ((List.pairwise_cons.1 hafter).1 _ hmem) (String.lt_asymm hlt)

/-- If not all last patterns can be compiled, there is such an error. -/
theorem exists_smallest_of_not_compiles (h : List.Forall₂ Document.IsMember fields members)
    (hbad : ¬∀ key p, Document.LastPattern fields key p → p.Compiles) (locale : String) :
    ∃ key p fault, Document.LastPattern fields key p ∧ p.compile = .error fault ∧
      (∀ key' p', Document.LastPattern fields key' p' → key' < key → p'.Compiles) ∧
      compileMembers locale (Dict.ofMembers members) = .error (.pattern key locale fault) := by
  cases he : compileMembers locale (Dict.ofMembers members) with
  | error e =>
    obtain ⟨key, p, fault, hlast, hp, hsmaller, rfl⟩ := smallest_of_compileMembers h he
    exact ⟨key, p, fault, hlast, hp, hsmaller, rfl⟩
  | ok messages =>
    refine absurd (fun key p hlast => ?_) hbad
    obtain ⟨compiled, hcompiled, _⟩ := exists_compiled_of_lastPattern h he hlast
    exact ⟨compiled, hcompiled⟩

end

namespace Catalog

/-! ## Loading -/

theorem load_of_parse {locale text : String} {members : List (String × Pattern)}
    (h : Document.parse text = .ok members) (c : Catalog) :
    c.load locale text =
      match compileMembers locale (Dict.ofMembers members) with
      | .error e => .error e
      | .ok messages =>
        .ok ({ c with store := c.store.insertAll locale messages }, messages.length) := by
  have hdocument : compileDocument locale text =
      compileMembers locale (Dict.ofMembers members) := by
    rw [compileDocument, h]
  cases hmessages : compileMembers locale (Dict.ofMembers members) with
  | error e => simp only [load, hdocument, hmessages]
  | ok messages => simp only [load, hdocument, hmessages]

/-- What loading does to a catalog when it succeeds. -/
structure Loaded (fields : List (String × Json)) (locale : String) (before after : Catalog) :
    Prop where
  fallback : after.fallback = before.fallback
  missing : after.missing = before.missing
  loaded : ∀ key ∈ Dict.names fields, ∃ p compiled, Document.LastPattern fields key p ∧
    p.compile = .ok compiled ∧ after.get? key locale = some compiled
  kept : ∀ key l, l ≠ locale ∨ key ∉ Dict.names fields → after.get? key l = before.get? key l

theorem loaded_of_compileMembers {fields : List (String × Json)}
    {members : List (String × Pattern)} (h : List.Forall₂ Document.IsMember fields members)
    {locale : String} {messages : List (String × Compiled)}
    (hmessages : compileMembers locale (Dict.ofMembers members) = .ok messages) (c : Catalog) :
    Loaded fields locale c { c with store := c.store.insertAll locale messages } where
  fallback := rfl
  missing := rfl
  loaded key hkey := by
    obtain ⟨p, hlast⟩ := Document.exists_lastPattern h hkey
    obtain ⟨compiled, hcompiled, hfound⟩ := exists_compiled_of_lastPattern h hmessages hlast
    refine ⟨p, compiled, hlast, hcompiled, ?_⟩
    rw [get?, Store.get?_insertAll, if_pos rfl, hfound]
    rfl
  kept key l hkept := by
    rw [get?, get?, Store.get?_insertAll]
    split
    · next heq =>
      have hkey : key ∉ Dict.names fields := hkept.resolve_left fun hne => hne heq.symm
      rw [← names_of_compileMembers h hmessages] at hkey
      rw [Dict.last?_eq_none_iff.2 hkey]
      rfl
    · rfl

/-- Loading decodes, compiles and stores. A text that is no JSON object, or that has a member, be it
one that does not count, whose value is no pattern, is an error of the document. Else the last
pattern of each key counts. If all of these can be compiled, the result is the number of different
keys, each key has its pattern, compiled, and all else is as it was. If not, the key with a bad one
whose bytes come first is reported with the error of that pattern. After an error the catalog is as
it was. -/
theorem load_all_or_nothing (c : Catalog) (locale text : String) :
    ((¬∃ fields, Document.IsObject text fields ∧ ∀ f ∈ fields, (Pattern.ofJson? f.2).isSome) →
      ∃ e, (Edit.load locale text).on c = (.error (.document locale e), c)) ∧
    ∀ fields, Document.IsObject text fields → (∀ f ∈ fields, (Pattern.ofJson? f.2).isSome) →
      ((∀ key p, Document.LastPattern fields key p → p.Compiles) →
        ∃ after, (Edit.load locale text).on c = (.ok (Dict.names fields).toFinset.card, after) ∧
          Loaded fields locale c after) ∧
      ((¬∀ key p, Document.LastPattern fields key p → p.Compiles) →
        ∃ key p fault, Document.LastPattern fields key p ∧ p.compile = .error fault ∧
          (∀ key' p', Document.LastPattern fields key' p' → Text.bytes key' < Text.bytes key →
            p'.Compiles) ∧
          (Edit.load locale text).on c = (.error (.pattern key locale fault), c)) := by
  rw [Edit.on_load]
  constructor
  · intro hnone
    cases hparse : Document.parse text with
    | error e =>
      refine ⟨e, ?_⟩
      rw [load, compileDocument, hparse]
    | ok members =>
      obtain ⟨fields, hobject, hmembers⟩ := Document.isObject_of_parse hparse
      exact absurd ⟨fields, hobject, Document.isSome_of_forall₂ hmembers⟩ hnone
  · intro fields hobject hpatterns
    obtain ⟨members, hparse, hmembers⟩ := Document.parse_of_isObject hobject hpatterns
    rw [load_of_parse hparse]
    cases hmessages : compileMembers locale (Dict.ofMembers members) with
    | error e =>
      obtain ⟨key, p, fault, hlast, hp, hsmaller, rfl⟩ :=
        smallest_of_compileMembers hmembers hmessages
      have hfirst : ∀ key' p', Document.LastPattern fields key' p' →
          Text.bytes key' < Text.bytes key → p'.Compiles :=
        fun key' p' hlast' hlt => hsmaller key' p' hlast' (Text.lt_iff_bytes_lt.2 hlt)
      refine ⟨fun hall => ?_, fun _ => ⟨key, p, fault, hlast, hp, hfirst, rfl⟩⟩
      obtain ⟨compiled, hcompiled⟩ := hall key p hlast
      rw [hp] at hcompiled
      cases hcompiled
    | ok messages =>
      rw [← length_of_compileMembers hmembers hmessages]
      refine ⟨fun _ => ⟨_, rfl, loaded_of_compileMembers hmembers hmessages c⟩, fun hbad => ?_⟩
      refine absurd (fun key p hlast => ?_) hbad
      obtain ⟨compiled, hcompiled, _⟩ := exists_compiled_of_lastPattern hmembers hmessages hlast
      exact ⟨compiled, hcompiled⟩

/-- A document that gives one key twice, the first time with a pattern that cannot be compiled. -/
def repeating : String :=
  "\x7b\"color\":[null],\"size\":\"taille\",\"color\":[\"couleur \",\x7b\"arg\":\"n\"\x7d]\x7d"

/-- The members of `repeating`. -/
def repeatingFields : List (String × Json) :=
  [("color", .array [.null]), ("size", .string "taille"),
    ("color", .array [.string "couleur ", .object [("arg", .string "n")]])]

/-- A catalog with one English message. -/
def coloured : Catalog :=
  (new (Locale.truncatingChain "en") failFast).registerCompiled "color" "en"
    (Compiled.ofText "colour")

theorem load_of_repeating :
    Document.IsObject repeating repeatingFields ∧
    (∀ f ∈ repeatingFields, (Pattern.ofJson? f.2).isSome) ∧
    (∀ key p, Document.LastPattern repeatingFields key p → p.Compiles) ∧
    ∃ after, (Edit.load "fr" repeating).on coloured = (.ok 2, after) ∧
      Loaded repeatingFields "fr" coloured after := by
  have hobject : Document.IsObject repeating repeatingFields := by
    unfold Document.IsObject
    cbv
  have hpatterns : ∀ f ∈ repeatingFields, (Pattern.ofJson? f.2).isSome := by
    simp [repeatingFields, Pattern.ofJson?]
  have hcompiles : ∀ key p, Document.LastPattern repeatingFields key p → p.Compiles := by
    rintro key p ⟨j, hj, hp⟩
    have hmem := Dict.mem_of_last? hj
    simp only [repeatingFields, List.mem_cons, List.not_mem_nil, or_false] at hmem
    rcases hmem with ⟨⟨⟩⟩ | ⟨⟨⟩⟩ | ⟨⟨⟩⟩
    · cases hj
    · cases hp
      exact ⟨_, rfl⟩
    · cases hp
      exact ⟨_, rfl⟩
  have hloaded := (load_all_or_nothing coloured "fr" repeating).2 repeatingFields hobject hpatterns
  exact ⟨hobject, hpatterns, hcompiles, hloaded.1 hcompiles⟩

end Catalog

end Parlance

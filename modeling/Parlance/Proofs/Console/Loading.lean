import Parlance.Console.Check
import Parlance.Proofs.Catalog.Loading

/-!
# What a catalog file adds

A file is read, decoded and compiled without a look at the catalog that it is loaded into. So every
command refuses the same files, with the same errors, and a file that is loaded lies over what was
loaded before: under its locale it gives the keys that it defines, and it leaves all else as it was.

Results:
1. `loadAt_eq`, `checkFile_eq`: loading and checking are what compiling the file comes to.
2. `loadAt_eq_error_iff`: a catalog refuses exactly the files that the check refuses.
3. `get?_of_layer`, `get?_of_not_layer`, `mem_keys_of_loadAt`: what a catalog holds after a file.
4. `run_check`: what a check of several files reports.
-/

namespace Parlance

/-! ## Definitions -/

namespace Files

/-- The file at a path is a JSON object with these members. -/
def Holds (files : Files) (path : String) (fields : List (String × Json)) : Prop :=
  ∃ text, (files path).read = .ok text ∧ Document.IsObject text fields

/-- The document at a path defines a key. -/
def Defines (files : Files) (path key : String) : Prop :=
  ∃ fields, files.Holds path fields ∧ key ∈ Dict.names fields

/-- The document at a path gives this message for a key: its last pattern for the key, compiled. -/
def Gives (files : Files) (path key : String) (compiled : Compiled) : Prop :=
  ∃ fields p, files.Holds path fields ∧ Document.LastPattern fields key p ∧
    p.compile = .ok compiled

/-- The file at a path is for the locale, by its name, and defines the key. -/
def IsLayer (files : Files) (locale key path : String) : Prop :=
  Path.stem? path = some locale ∧ files.Defines path key

/-- The messages of the file at a path with the locale of its name. -/
def compiled (files : Files) (path : String) :
    Except FileError (String × List (String × Compiled)) :=
  match Path.stem? path with
  | none => .error (.unnamed path)
  | some locale =>
    match (files path).read with
    | .error failure => .error (.unreadable path failure)
    | .ok text =>
      match Catalog.compileDocument locale text with
      | .error e => .error (.ofLoad path text e)
      | .ok messages => .ok (locale, messages)

/-- There is one file, at this path and with this text. -/
def only (path text : String) : Files := fun other =>
  if other = path then .file (.ok text) else .missing .notFound

/-- The errors of some files, each checked on its own. -/
def refusals (files : Files) (paths : List String) : List FileError :=
  paths.filterMap fun path => (checkFile files path).error?

end Files

theorem Files.read_only (path text : String) : (Files.only path text path).read = .ok text := by
  rw [Files.only, if_pos rfl, Entry.read]

/-! ## Compiling a file -/

section

variable {files : Files} {path : String}

theorem Files.Holds.eq {fields others : List (String × Json)} (h : files.Holds path fields)
    (h' : files.Holds path others) : fields = others := by
  obtain ⟨text, htext, hobject⟩ := h
  obtain ⟨text', htext', hobject'⟩ := h'
  obtain rfl := Except.ok.inj (htext.symm.trans htext')
  exact Json.object.inj (Except.ok.inj (hobject.symm.trans hobject'))

theorem Files.Holds.defines_iff {fields : List (String × Json)} (h : files.Holds path fields)
    {key : String} : files.Defines path key ↔ key ∈ Dict.names fields := by
  constructor
  · rintro ⟨others, hothers, hkey⟩
    exact h.eq hothers ▸ hkey
  · exact fun hkey => ⟨fields, h, hkey⟩

theorem compileDocument_eq_ok {locale text : String} {messages : List (String × Compiled)}
    (h : Catalog.compileDocument locale text = .ok messages) :
    ∃ fields members, Document.IsObject text fields ∧
      List.Forall₂ Document.IsMember fields members ∧
      compileMembers locale (Dict.ofMembers members) = .ok messages := by
  rw [Catalog.compileDocument] at h
  cases hparse : Document.parse text with
  | error e =>
    rw [hparse] at h
    cases h
  | ok members =>
    rw [hparse] at h
    obtain ⟨fields, hobject, hmembers⟩ := Document.isObject_of_parse hparse
    exact ⟨fields, members, hobject, hmembers, h⟩

theorem compiled_eq_ok {locale : String} {messages : List (String × Compiled)}
    (h : files.compiled path = .ok (locale, messages)) :
    Path.stem? path = some locale ∧ ∃ fields members, files.Holds path fields ∧
      List.Forall₂ Document.IsMember fields members ∧
      compileMembers locale (Dict.ofMembers members) = .ok messages := by
  unfold Files.compiled at h
  cases hstem : Path.stem? path with
  | none =>
    rw [hstem] at h
    cases h
  | some l =>
    rw [hstem] at h
    dsimp only at h
    cases hread : (files path).read with
    | error failure =>
      rw [hread] at h
      cases h
    | ok text =>
      rw [hread] at h
      dsimp only at h
      cases hmessages : Catalog.compileDocument l text with
      | error e =>
        rw [hmessages] at h
        cases h
      | ok found =>
        rw [hmessages] at h
        cases h
        obtain ⟨fields, members, hobject, hmembers, hcompiled⟩ := compileDocument_eq_ok hmessages
        exact ⟨rfl, fields, members, ⟨text, hread, hobject⟩, hmembers, hcompiled⟩

theorem stem?_of_compiled {locale : String} {messages : List (String × Compiled)}
    (h : files.compiled path = .ok (locale, messages)) : Path.stem? path = some locale :=
  (compiled_eq_ok h).1

/-- The keys of the messages are the keys of the document. -/
theorem mem_names_compiled {locale : String} {messages : List (String × Compiled)}
    (h : files.compiled path = .ok (locale, messages)) {key : String} :
    key ∈ Dict.names messages ↔ files.Defines path key := by
  obtain ⟨-, fields, members, hholds, hmembers, hmessages⟩ := compiled_eq_ok h
  rw [names_of_compileMembers hmembers hmessages, hholds.defines_iff]

/-- The last message of a key is what the document gives. -/
theorem last?_compiled {locale : String} {messages : List (String × Compiled)}
    (h : files.compiled path = .ok (locale, messages)) {key : String} {compiled : Compiled} :
    Dict.last? key messages = some compiled ↔ files.Gives path key compiled := by
  obtain ⟨-, fields, members, hholds, hmembers, hmessages⟩ := compiled_eq_ok h
  constructor
  · intro hlast
    have hkey : key ∈ Dict.names fields :=
      (names_of_compileMembers hmembers hmessages).1
        (Dict.last?_isSome_iff.1 (Option.isSome_of_eq_some hlast))
    obtain ⟨p, hp⟩ := Document.exists_lastPattern hmembers hkey
    obtain ⟨found, hfound, hlast'⟩ := exists_compiled_of_lastPattern hmembers hmessages hp
    obtain rfl := Option.some.inj (hlast.symm.trans hlast')
    exact ⟨fields, p, hholds, hp, hfound⟩
  · rintro ⟨others, p, hothers, hp, hcompiled⟩
    obtain rfl := hholds.eq hothers
    obtain ⟨found, hfound, hlast⟩ := exists_compiled_of_lastPattern hmembers hmessages hp
    rw [hcompiled] at hfound
    cases hfound
    exact hlast

end

/-! ## Loading a file -/

section

variable {files : Files} {path : String} {c : Catalog}

theorem loadAt_eq (c : Catalog) (files : Files) (path : String) :
    c.loadAt files path =
      match files.compiled path with
      | .error e => .error e
      | .ok (locale, messages) =>
        .ok ⟨{ c with store := c.store.insertAll locale messages }, locale, messages.length⟩ := by
  unfold Catalog.loadAt Files.compiled Catalog.load
  cases Path.stem? path with
  | none => rfl
  | some locale =>
    dsimp only
    cases (files path).read with
    | error failure => rfl
    | ok text =>
      dsimp only
      cases Catalog.compileDocument locale text <;> rfl

theorem checkFile_eq (files : Files) (path : String) :
    checkFile files path =
      match files.compiled path with
      | .error e => .error e
      | .ok (locale, messages) => .ok (locale, messages.length) := by
  rw [checkFile, loadAt_eq]
  cases files.compiled path <;> rfl

/-- Whatever has been loaded before, a file is refused exactly if it is refused on its own. -/
theorem loadAt_eq_error_iff {e : FileError} :
    c.loadAt files path = .error e ↔ checkFile files path = .error e := by
  rw [loadAt_eq, checkFile_eq]
  cases files.compiled path with
  | error e' => simp
  | ok found => simp

theorem exists_compiled_of_loadAt {loaded : Loaded} (h : c.loadAt files path = .ok loaded) :
    ∃ messages, files.compiled path = .ok (loaded.locale, messages) ∧
      loaded.catalog = { c with store := c.store.insertAll loaded.locale messages } ∧
      loaded.count = messages.length := by
  rw [loadAt_eq] at h
  cases hcompiled : files.compiled path with
  | error e =>
    rw [hcompiled] at h
    cases h
  | ok found =>
    rw [hcompiled] at h
    cases h
    exact ⟨found.2, rfl, rfl, rfl⟩

variable {loaded : Loaded} {locale key : String}

theorem get?_of_layer (h : c.loadAt files path = .ok loaded)
    (hlayer : files.IsLayer locale key path) {compiled : Compiled} :
    loaded.catalog.get? key locale = some compiled ↔ files.Gives path key compiled := by
  obtain ⟨messages, hmessages, hcatalog, -⟩ := exists_compiled_of_loadAt h
  obtain ⟨hstem, hdefines⟩ := hlayer
  obtain rfl : loaded.locale = locale :=
    Option.some.inj ((stem?_of_compiled hmessages).symm.trans hstem)
  have hsome := Dict.last?_isSome_iff.2 ((mem_names_compiled hmessages).2 hdefines)
  rw [← last?_compiled hmessages, hcatalog, Catalog.get?, Store.get?_insertAll, if_pos rfl,
    Option.or_of_isSome hsome]

theorem get?_of_not_layer (h : c.loadAt files path = .ok loaded)
    (hlayer : ¬files.IsLayer locale key path) :
    loaded.catalog.get? key locale = c.get? key locale := by
  obtain ⟨messages, hmessages, hcatalog, -⟩ := exists_compiled_of_loadAt h
  rw [hcatalog, Catalog.get?, Store.get?_insertAll]
  split
  · next heq =>
    have hstem := stem?_of_compiled hmessages
    have hkey : key ∉ Dict.names messages := fun hkey =>
      hlayer ⟨heq ▸ hstem, (mem_names_compiled hmessages).1 hkey⟩
    rw [Dict.last?_eq_none_iff.2 hkey]
    rfl
  · rfl

/-- A file adds the keys that it defines to those of its locale. -/
theorem mem_keys_of_loadAt (h : c.loadAt files path = .ok loaded) :
    key ∈ loaded.catalog.store.keys locale ↔
      files.IsLayer locale key path ∨ key ∈ c.store.keys locale := by
  rw [Store.mem_keys_iff, Store.mem_keys_iff]
  by_cases hlayer : files.IsLayer locale key path
  · obtain ⟨messages, hmessages, -⟩ := exists_compiled_of_loadAt h
    have hsome := Dict.last?_isSome_iff.2 ((mem_names_compiled hmessages).2 hlayer.2)
    obtain ⟨compiled, hcompiled⟩ := Option.isSome_iff_exists.1 hsome
    have hget := (get?_of_layer h hlayer).2 ((last?_compiled hmessages).1 hcompiled)
    exact iff_of_true (Option.isSome_of_eq_some hget) (Or.inl hlayer)
  · have hget := get?_of_not_layer h hlayer
    rw [Catalog.get?, Catalog.get?] at hget
    rw [hget]
    simp [hlayer]

end

/-! ## Checking files -/

theorem refusals_cons (files : Files) (path : String) (rest : List String) :
    files.refusals (path :: rest) =
      (checkFile files path).error?.toList ++ files.refusals rest := by
  rw [Files.refusals, List.filterMap_cons]
  cases checkFile files path <;> rfl

/-- A check reports the errors of its files, and ends well if there are none. -/
theorem run_check (files : Files) (paths : List String) :
    let outcome := (CheckCommand.mk paths false).run files
    outcome.errors = files.refusals paths ∧
      outcome.code = if (files.refusals paths).isEmpty then .success else .invalidData := by
  have herrors : ((paths.map fun path => (path, checkFile files path)).filterMap
      fun result => result.2.error?) = files.refusals paths :=
    List.filterMap_map
  exact ⟨herrors, congrArg (fun errors : List FileError =>
    if errors.isEmpty then ExitCode.success else ExitCode.invalidData) herrors⟩

end Parlance

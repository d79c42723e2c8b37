import Parlance.Console.Eval
import Parlance.Proofs.Catalog.Editing
import Parlance.Proofs.Console.Loading

/-!
# Translating with layers of catalogs

The catalog files of a command are loaded one after the other over the built-in messages. A file
that the check refuses is refused here too, before anything is translated. Otherwise every message
comes from the last file that has it.

Results:
1. `request_of_arguments`: the request of the command.
2. `loadAll_of_refusals`, `exists_loadAll`: what loading several files comes to (`Layers`).
3. `output_eq`, `complaint_eq`: what is written of a text and of an error.
4. `run_in_layers`: what the command does.
-/

namespace Parlance

/-! ## Definitions -/

/-- The message under a locale and key when files were loaded over what stood there before: that of
the last file that is for the locale and defines the key, or the one from before if there is no
such file. -/
def Files.Stands (files : Files) (paths : List String) (before : Option Compiled)
    (locale key : String) (compiled : Compiled) : Prop :=
  (∃ earlier path later, paths = earlier ++ path :: later ∧ files.IsLayer locale key path ∧
    (∀ p ∈ later, ¬files.IsLayer locale key p) ∧ files.Gives path key compiled) ∨
  (∀ p ∈ paths, ¬files.IsLayer locale key p) ∧ before = some compiled

namespace EvalCommand

/-- The files that a path stands for: the catalog files of a folder in the order of their names, or
the path itself. -/
def Expands (files : Files) (path : String) (paths : List String) : Prop :=
  match files path with
  | .folder names =>
    ∃ sorted : List String, sorted.Perm (names.filter (Path.hasExtension "json")) ∧
      sorted.Pairwise (· ≤ ·) ∧ paths = sorted.map (Path.join path)
  | _ => paths = [path]

/-- The second translator is the first with some files loaded into its catalog. -/
structure Layers (files : Files) (paths : List String) (before after : Translator) : Prop where
  registry : after.registry = before.registry
  setting : after.setting = { before.setting with catalog := after.catalog }
  fallback : after.catalog.fallback = before.catalog.fallback
  missing : after.catalog.missing = before.catalog.missing
  messages : ∀ locale key compiled, after.catalog.get? key locale = some compiled ↔
    files.Stands paths (before.catalog.get? key locale) locale key compiled

/-- A translator for a default locale with the messages of some files. For the built-in keys it has
the English texts in the default locale, where no file defines them. Missing texts fail, or are
replaced if the command is lenient. -/
structure Prepared (c : EvalCommand) (files : Files) (paths : List String) (default : String)
    (t : Translator) : Prop where
  registry : t.registry = Registry.builtins .byTag
  defaultLocale : t.setting.defaultLocale = default
  maxDepth : t.setting.maxDepth = 64
  fallback : t.catalog.fallback = Locale.truncatingChain default
  missing : t.catalog.missing = if c.lenient then substitute else failFast
  messages : ∀ locale key compiled, t.catalog.get? key locale = some compiled ↔
    files.Stands paths (if locale = default then
      (Dict.last? key builtinMessages).map Compiled.ofText else none) locale key compiled

/-! ## The request -/

theorem request_of_arguments (arguments : List (String × String)) (r : Message) :
    let q := arguments.foldl (fun r (name, text) => r.bind name (Value.ofArgument text)) r
    q.key = r.key ∧ q.locale = r.locale ∧
      q.args = r.args ++ arguments.map (fun a => Value.ofArgument a.2) ∧
      ∀ name, q.named? name =
        ((Dict.last? name arguments).map Value.ofArgument).or (r.named? name) := by
  induction arguments generalizing r with
  | nil => simp [Dict.last?_nil]
  | cons a rest ih =>
    obtain ⟨n, text⟩ := a
    obtain ⟨hkey, hlocale, hargs, hnamed⟩ := ih (r.bind n (Value.ofArgument text))
    refine ⟨hkey, hlocale, ?_, fun name => ?_⟩
    · rw [List.foldl_cons, hargs, List.map_cons]
      exact List.append_assoc r.args [Value.ofArgument text] _
    · have hbound : (r.bind n (Value.ofArgument text)).named? name =
          (if n = name then some (Value.ofArgument text) else none).or (r.named? name) := by
        simp only [Request.bind, Request.arg, Request.name, Request.named?, Dict.get?_insert]
        split <;> rfl
      rw [List.foldl_cons, hnamed, hbound, Dict.last?_cons, ← Option.or_assoc]
      congr 1
      cases Dict.last? name rest <;> by_cases hn : n = name <;> simp [hn]

/-! ## The files -/

theorem expands_catalogFiles (files : Files) (path : String) :
    Expands files path (catalogFiles files path) := by
  unfold Expands catalogFiles
  cases files path with
  | file content => rfl
  | missing failure => rfl
  | folder names =>
    refine ⟨_, List.mergeSort_perm _ _, ?_, rfl⟩
    have htrans : ∀ a b c : String, decide (a ≤ b) → decide (b ≤ c) → decide (a ≤ c) := by
      intro a b c hab hbc
      simp only [decide_eq_true_eq] at *
      exact String.le_trans hab hbc
    have htotal : ∀ a b : String, decide (a ≤ b) || decide (b ≤ a) := by
      intro a b
      simpa using String.le_total a b
    exact (List.pairwise_mergeSort htrans htotal _).imp fun h => of_decide_eq_true h

section

variable {files : Files} {path : String} {rest : List String}

theorem stands_nil {before : Option Compiled} {locale key : String} {compiled : Compiled} :
    files.Stands [] before locale key compiled ↔ before = some compiled := by
  simp [Files.Stands]

/-- What stands after a first file decides for the files behind it. -/
theorem stands_cons {before between : Option Compiled} {locale key : String} {compiled : Compiled}
    (hlayer : files.IsLayer locale key path →
      (between = some compiled ↔ files.Gives path key compiled))
    (hother : ¬files.IsLayer locale key path → between = before) :
    files.Stands rest between locale key compiled ↔
      files.Stands (path :: rest) before locale key compiled := by
  constructor
  · rintro (⟨earlier, p, later, rfl, htop⟩ | ⟨hnone, hbetween⟩)
    · exact Or.inl ⟨path :: earlier, p, later, rfl, htop⟩
    · by_cases hl : files.IsLayer locale key path
      · exact Or.inl ⟨[], path, rest, rfl, hl, hnone, (hlayer hl).1 hbetween⟩
      · exact Or.inr ⟨List.forall_mem_cons.2 ⟨hl, hnone⟩, hother hl ▸ hbetween⟩
  · rintro (⟨earlier, p, later, heq, hl, hlater, hgives⟩ | ⟨hnone, hbefore⟩)
    · cases earlier with
      | nil =>
        obtain ⟨rfl, rfl⟩ := List.cons.inj heq
        exact Or.inr ⟨hlater, (hlayer hl).2 hgives⟩
      | cons q earlier =>
        obtain ⟨rfl, rfl⟩ := List.cons.inj heq
        exact Or.inl ⟨earlier, p, later, rfl, hl, hlater, hgives⟩
    · obtain ⟨hl, hrest⟩ := List.forall_mem_cons.1 hnone
      exact Or.inr ⟨hrest, (hother hl).trans hbefore⟩

variable {t after : Translator} {loaded : Loaded}

theorem Layers.refl (t : Translator) : Layers files [] t t where
  registry := rfl
  setting := rfl
  fallback := rfl
  missing := rfl
  messages _ _ _ := stands_nil.symm

theorem Layers.cons (hloaded : t.catalog.loadAt files path = .ok loaded)
    (h : Layers files rest (t.withCatalog loaded.catalog) after) :
    Layers files (path :: rest) t after := by
  obtain ⟨messages, -, hcatalog, -⟩ := exists_compiled_of_loadAt hloaded
  have hfallback : loaded.catalog.fallback = t.catalog.fallback := by rw [hcatalog]
  have hmissing : loaded.catalog.missing = t.catalog.missing := by rw [hcatalog]
  refine ⟨h.registry, h.setting, h.fallback.trans hfallback, h.missing.trans hmissing, ?_⟩
  intro locale key compiled
  rw [h.messages]
  exact stands_cons (fun hlayer => get?_of_layer hloaded hlayer)
    (fun hlayer => get?_of_not_layer hloaded hlayer)

end

/-- The first file that the check refuses ends the loading with its error. -/
theorem loadAll_of_refusals {files : Files} {paths : List String} {e : FileError}
    {others : List FileError} (h : files.refusals paths = e :: others) (t : Translator) :
    loadAll files t paths = .error e := by
  induction paths generalizing t with
  | nil => cases h
  | cons path rest ih =>
    rw [refusals_cons] at h
    rw [loadAll]
    cases hloaded : t.catalog.loadAt files path with
    | error e' =>
      rw [loadAt_eq_error_iff.1 hloaded] at h
      cases h
      rfl
    | ok loaded =>
      cases hcheck : checkFile files path with
      | error e' =>
        rw [loadAt_eq_error_iff.2 hcheck] at hloaded
        cases hloaded
      | ok result =>
        rw [hcheck] at h
        exact ih h _

/-- Files that the check does not refuse are all loaded. -/
theorem exists_loadAll {files : Files} {paths : List String} (h : files.refusals paths = [])
    (t : Translator) : ∃ after, loadAll files t paths = .ok after ∧ Layers files paths t after := by
  induction paths generalizing t with
  | nil => exact ⟨t, rfl, .refl t⟩
  | cons path rest ih =>
    rw [refusals_cons] at h
    rw [loadAll]
    cases hloaded : t.catalog.loadAt files path with
    | error e =>
      rw [loadAt_eq_error_iff.1 hloaded] at h
      cases h
    | ok loaded =>
      obtain ⟨after, hafter, hlayers⟩ := ih (List.append_eq_nil_iff.1 h).2
        (t.withCatalog loaded.catalog)
      exact ⟨after, hafter, .cons hloaded hlayers⟩

/-! ## What is written -/

theorem newLine_zero : Json.newLine 0 = "\n" :=
  rfl

theorem newLine_one : Json.newLine 1 = "\n  " :=
  rfl

theorem output_eq (c : EvalCommand) (locale text : String) :
    c.output locale text =
      if c.json then
        "\x7b\n  \"key\": " ++ Json.stringLiteral c.key ++
          ",\n  \"locale\": " ++ Json.stringLiteral locale ++
          ",\n  \"result\": " ++ Json.stringLiteral text ++ "\n\x7d\n"
      else text ++ "\n" := by
  unfold output
  split
  · have hkey : Json.stringLiteral "key" = "\"key\"" := by decide +kernel
    have hlocale : Json.stringLiteral "locale" = "\"locale\"" := by decide +kernel
    have hresult : Json.stringLiteral "result" = "\"result\"" := by decide +kernel
    simp only [Json.pretty, Json.prettyMembers, Json.atom, hkey, hlocale, hresult, newLine_zero,
      newLine_one, Nat.zero_add]
    rw [← String.toList_inj]
    simp
  · rfl

theorem complaint_eq (c : EvalCommand) (e : TranslateError) :
    c.complaint e =
      if c.json then "\x7b\n  \"error\": " ++ Json.stringLiteral e.message ++ "\n\x7d\n"
      else "Translation error: " ++ e.message ++ "\n" := by
  unfold complaint
  split
  · have herror : Json.stringLiteral "error" = "\"error\"" := by decide +kernel
    simp only [Json.pretty, Json.prettyMembers, Json.atom, herror, newLine_zero, newLine_one,
      Nat.zero_add]
    rw [← String.toList_inj]
    simp
  · rfl

/-! ## The command -/

theorem get?_translator (default locale key : String) (c : EvalCommand) :
    (c.translator default).catalog.get? key locale =
      if locale = default then (Dict.last? key builtinMessages).map Compiled.ofText else none := by
  have hstore : (c.translator default).catalog.store =
      Store.empty.insertAll default (builtinMessages.map fun m => (m.1, Compiled.ofText m.2)) :=
    rfl
  rw [Catalog.get?, hstore, Store.get?_insertAll, Dict.last?_map]
  simp only [eq_comm (a := default)]
  split
  · exact Option.or_none
  · rfl

/-- The translator that files are loaded into is prepared with no files. -/
theorem Prepared.of_layers {c : EvalCommand} {files : Files} {paths : List String}
    {default : String} {t : Translator} (h : Layers files paths (c.translator default) t) :
    c.Prepared files paths default t where
  registry := h.registry
  defaultLocale := by rw [h.setting]; rfl
  maxDepth := by rw [h.setting]; rfl
  fallback := h.fallback
  missing := h.missing
  messages locale key compiled := by
    rw [h.messages, get?_translator]

theorem run_of_loadAll {c : EvalCommand} {files : Files} {lookup : String → Option String}
    {host : Option String} {t : Translator}
    (h : loadAll files (c.translator (c.resolvedDefault lookup host))
      (c.catalogs.flatMap (catalogFiles files)) = .ok t) :
    let locale := c.locale.getD (c.resolvedDefault lookup host)
    c.run files lookup host =
      match (t.translateTo c.request locale).1 with
      | .ok text => { code := .success, output := c.output locale text }
      | .error e => { code := .invalidData, complaint := c.complaint e } := by
  intro locale
  rw [run, h]
  dsimp only
  cases t.translateTo c.request (c.locale.getD (c.resolvedDefault lookup host)) with
  | mk outcome after => cases outcome <;> rfl

/-- The command expands its paths to files. If the check reports any of these, the command reports
the first that is bad, and fails without translating. Otherwise it translates its request, with the
arguments in their order, to the locale given or else to the default locale, with the messages of
all files, of which the last counts, and ends well with the text or badly with the error. This is
written on a line, or as the members of a JSON object, one a line. -/
theorem run_in_layers (c : EvalCommand) (files : Files) (lookup : String → Option String)
    (host : Option String) :
    let default := c.resolvedDefault lookup host
    let locale := c.locale.getD default
    let paths := c.catalogs.flatMap (catalogFiles files)
    let check := (CheckCommand.mk paths false).run files
    (∀ path ∈ c.catalogs, Expands files path (catalogFiles files path)) ∧
    (check.code = .success ↔ check.errors = []) ∧
    (∀ e others, check.errors = e :: others →
      c.run files lookup host = { code := .failure, output := "", errors := [e] }) ∧
    (check.errors = [] → ∃ t, c.Prepared files paths default t ∧
      (∀ text, (t.translateTo c.request locale).1 = .ok text →
        c.run files lookup host =
          { code := .success
            output :=
              if c.json then
                "\x7b\n  \"key\": " ++ Json.stringLiteral c.key ++
                  ",\n  \"locale\": " ++ Json.stringLiteral locale ++
                  ",\n  \"result\": " ++ Json.stringLiteral text ++ "\n\x7d\n"
              else text ++ "\n" }) ∧
      ∀ e, (t.translateTo c.request locale).1 = .error e →
        c.run files lookup host =
          { code := .invalidData
            complaint :=
              if c.json then "\x7b\n  \"error\": " ++ Json.stringLiteral e.message ++ "\n\x7d\n"
              else "Translation error: " ++ e.message ++ "\n" }) ∧
    c.request.key = c.key ∧ c.request.args = c.arguments.map (fun a => Value.ofArgument a.2) ∧
    ∀ name, c.request.named? name = (Dict.last? name c.arguments).map Value.ofArgument := by
  intro default locale paths check
  obtain ⟨herrors, hcode⟩ := run_check files paths
  obtain ⟨hkey, -, hargs, hnamed⟩ := request_of_arguments c.arguments (Request.ofKey c.key)
  refine ⟨fun path _ => expands_catalogFiles files path, ?_, fun e others h => ?_, fun h => ?_,
    hkey, hargs, fun name => (hnamed name).trans Option.or_none⟩
  · rw [hcode, herrors]
    cases files.refusals paths <;> simp
  · have hloaded := loadAll_of_refusals (herrors.symm.trans h) (c.translator default)
    rw [run, hloaded]
    rfl
  · obtain ⟨t, hloaded, hlayers⟩ := exists_loadAll (herrors.symm.trans h) (c.translator default)
    refine ⟨t, .of_layers hlayers, fun text htext => ?_, fun e he => ?_⟩
    · rw [run_of_loadAll hloaded, htext, ← output_eq]
    · rw [run_of_loadAll hloaded, he, ← complaint_eq]

/-- Two German documents, which both define a greeting. -/
def twoEditions : Files
  | "old/de.json" => .file (.ok "\x7b\"greeting\":\"Hallo\",\"list.and\":\" und \"\x7d")
  | "new/de.json" => .file (.ok "\x7b\"greeting\":[\"Hallo \",\x7b\"arg\":\"name\"\x7d]\x7d")
  | _ => .missing .notFound

/-- Greets the world in German with some catalogs. -/
def greeting (catalogs : List String) : EvalCommand :=
  { key := "greeting", catalogs := catalogs, locale := none, defaultLocale := some "de",
    arguments := [("name", "Welt")], lenient := false, json := false }

/-- The greeting comes from the new document, the conjunction from the old one, and the disjunction
is the English one. A document that is not there ends the command. -/
theorem layers_of_editions :
    (∃ t, (greeting ["old/de.json", "new/de.json"]).Prepared twoEditions
        ["old/de.json", "new/de.json"] "de" t ∧
      t.catalog.get? "greeting" "de" =
        some ⟨[.text "Hallo ", .argument (.name "name") .none]⟩ ∧
      t.catalog.get? "list.and" "de" = some (Compiled.ofText " und ") ∧
      t.catalog.get? "list.or" "de" = some (Compiled.ofText " or ")) ∧
    (greeting ["new/de.json", "new/fr.json"]).run twoEditions (fun _ => none) none =
      { code := .failure, output := "", errors := [.unreadable "new/fr.json" .notFound] } := by
  have hold : twoEditions.Holds "old/de.json"
      [("greeting", .string "Hallo"), ("list.and", .string " und ")] :=
    ⟨_, rfl, by unfold Document.IsObject; cbv⟩
  have hnew : twoEditions.Holds "new/de.json"
      [("greeting", .array [.string "Hallo ", .object [("arg", .string "name")]])] :=
    ⟨_, rfl, by unfold Document.IsObject; cbv⟩
  have hstem : Path.stem? "old/de.json" = some "de" := by cbv
  have hstem' : Path.stem? "new/de.json" = some "de" := by cbv
  have haccepted : twoEditions.refusals ["old/de.json", "new/de.json"] = [] := by cbv
  have hrefused : twoEditions.refusals ["new/de.json", "new/fr.json"] =
      [.unreadable "new/fr.json" .notFound] := by cbv
  have hrun :=
    run_in_layers (greeting ["old/de.json", "new/de.json"]) twoEditions (fun _ => none) none
  have hfail :=
    run_in_layers (greeting ["new/de.json", "new/fr.json"]) twoEditions (fun _ => none) none
  obtain ⟨t, ht, -⟩ := hrun.2.2.2.1 ((run_check _ _).1.trans haccepted)
  change (greeting _).Prepared twoEditions ["old/de.json", "new/de.json"] "de" t at ht
  have hlater : ¬twoEditions.IsLayer "de" "list.and" "new/de.json" :=
    fun h => absurd (hnew.defines_iff.1 h.2) (by decide)
  refine ⟨⟨t, ht, ?_, ?_, ?_⟩, hfail.2.2.1 _ _ ((run_check _ _).1.trans hrefused)⟩
  · exact (ht.messages _ _ _).2 (Or.inl ⟨["old/de.json"], _, [], rfl,
      ⟨hstem', hnew.defines_iff.2 (by decide)⟩, List.forall_mem_nil _, _, _, hnew, ⟨_, rfl, rfl⟩,
      rfl⟩)
  · exact (ht.messages _ _ _).2 (Or.inl ⟨[], _, ["new/de.json"], rfl,
      ⟨hstem, hold.defines_iff.2 (by decide)⟩, by simpa using hlater, _, _, hold, ⟨_, rfl, rfl⟩,
      rfl⟩)
  · refine (ht.messages _ _ _).2 (Or.inr ⟨?_, rfl⟩)
    rw [List.forall_mem_cons, List.forall_mem_singleton]
    exact ⟨fun h => absurd (hold.defines_iff.1 h.2) (by decide),
      fun h => absurd (hnew.defines_iff.1 h.2) (by decide)⟩

end EvalCommand

end Parlance

import Parlance.Proofs.Console.Coverage

/-!
# Figures in step

The figures of a coverage come from three places: the total from the number of messages that the
source was loaded with, the missing keys from the keys noted at that time, and the translated ones
from a difference of the two that cannot fall below zero. Meanwhile the catalog goes on growing, and
a document may even add keys to the locale of the source. The three numbers fit together all the
same, for every locale and after every load.

Results:
1. `LocaleCoverage.consistent_of`: one figure, whatever the catalog has for its locale.
2. `refusals_present_cons`, `figures_eq_error`: the first document that is refused ends the command.
3. `exists_figures_iff_documents`: when there are figures.
4. `figures_in_step`: the figures of a whole run, what it writes, and how it ends.
-/

namespace Parlance

/-! ## Definitions -/

/-- A figure fits the keys of the source: the total is their number, the missing keys are some of
them in order, and the translated ones are the others. -/
structure LocaleCoverage.Consistent (source : List String) (f : LocaleCoverage) : Prop where
  total : f.total = source.length
  ordered : f.missing.Pairwise (· < ·)
  subset : f.missing ⊆ source
  translated : f.translated = (source.filter (· ∉ f.missing)).length
  fits : f.missing.length ≤ f.total
  sum : f.translated + f.missing.length = f.total

namespace CoverageCommand

/-- The files of some locales that are there. -/
def present (c : CoverageCommand) (files : Files) (locales : List String) : List String :=
  (locales.map c.fileOf).filter fun path => (files path).isThere

/-- The documents that are loaded, in order: the source, and the files of the listed locales. -/
def documents (c : CoverageCommand) (files : Files) : List String :=
  c.source :: c.present files c.locales

/-- The figures measure the listed locales one by one against the keys of the source. A key is
missing if no document that has been loaded by then gives it to the locale. -/
structure Measures (c : CoverageCommand) (files : Files) (source : List String)
    (figures : List LocaleCoverage) : Prop where
  ordered : source.Pairwise (· < ·)
  keys : ∀ key, key ∈ source ↔ files.Defines c.source key
  locales : figures.map (·.locale) = c.locales
  consistent : ∀ f ∈ figures, f.Consistent source
  missing : ∀ before f after, figures = before ++ f :: after → ∀ key, key ∈ f.missing ↔
    key ∈ source ∧ ∀ path ∈ c.source :: ((before ++ [f]).map (·.locale)).map c.fileOf,
      ¬files.IsLayer f.locale key path

end CoverageCommand

/-! ## One figure -/

/-- Whatever keys a locale has, its figure fits the keys of the source. -/
theorem LocaleCoverage.consistent_of {source : List String} (h : source.Pairwise (· < ·))
    (locale : String) (keys : List String) :
    (LocaleCoverage.of locale source.length source keys).Consistent source := by
  have hpresent : source.filter
      (· ∉ (LocaleCoverage.of locale source.length source keys).missing) =
        source.filter keys.contains := by
    refine List.filter_congr fun key hkey => ?_
    simp [CoverageCommand.mem_missing_of, hkey]
  have hfits : (LocaleCoverage.of locale source.length source keys).missing.length ≤
      source.length :=
    List.length_filter_le _ _
  -- The keys that are there and those that are missing make up the source, so nothing is cut off.
  have hsplit : source.length = (source.filter keys.contains).length +
      (LocaleCoverage.of locale source.length source keys).missing.length :=
    List.length_eq_length_filter_add keys.contains
  exact {
    total := rfl
    ordered := h.filter _
    subset := List.filter_sublist.subset
    translated := by
      rw [hpresent]
      exact Nat.sub_eq_of_eq_add hsplit
    fits := hfits
    sum := Nat.sub_add_cancel hfits }

namespace CoverageCommand

variable {c : CoverageCommand} {files : Files}

/-! ## Refused documents -/

/-- The file of a locale is refused exactly if it is there and cannot be loaded. -/
theorem refusals_present_cons (catalog : Catalog) (locale : String) (rest : List String) :
    files.refusals (c.present files (locale :: rest)) =
      (match c.loadLocale files catalog locale with
        | .error e => [e]
        | .ok _ => []) ++ files.refusals (c.present files rest) := by
  rw [present, List.map_cons, List.filter_cons, loadLocale]
  by_cases hthere : (files (c.fileOf locale)).isThere = true
  · rw [if_pos hthere, if_pos hthere, refusals_cons, checkFile_eq, loadAt_eq]
    cases files.compiled (c.fileOf locale) <;> rfl
  · rw [if_neg hthere, if_neg hthere]
    rfl

theorem figuresFrom_eq_error {total : Nat} {source locales : List String} {catalog : Catalog}
    {e : FileError} (h : c.figuresFrom files total source catalog locales = .error e) :
    (files.refusals (c.present files locales)).head? = some e := by
  induction locales generalizing catalog with
  | nil => cases h
  | cons locale rest ih =>
    rw [refusals_present_cons catalog]
    rw [figuresFrom] at h
    cases hafter : c.loadLocale files catalog locale with
    | error e' =>
      rw [hafter] at h
      cases h
      rfl
    | ok after =>
      rw [hafter] at h
      dsimp only at h
      cases hothers : c.figuresFrom files total source after rest with
      | error e' =>
        rw [hothers] at h
        cases h
        exact ih hothers
      | ok others =>
        rw [hothers] at h
        cases h

/-- Without figures, the first document that is refused tells why. -/
theorem figures_eq_error {e : FileError} (h : c.figures files = .error e) :
    (files.refusals (c.documents files)).head? = some e := by
  rw [documents, refusals_cons, checkFile]
  rw [CoverageCommand.figures] at h
  cases hloaded : Catalog.blank.loadAt files c.source with
  | error e' =>
    rw [hloaded] at h
    cases h
    rfl
  | ok loaded =>
    rw [hloaded] at h
    exact figuresFrom_eq_error h

/-- There are figures exactly if every document can be loaded. -/
theorem exists_figures_iff_documents (c : CoverageCommand) (files : Files) :
    (∃ figures, c.figures files = .ok figures) ↔
      ∀ path ∈ c.documents files, ∃ result, checkFile files path = .ok result := by
  rw [exists_figures_iff, documents, List.forall_mem_cons, present]
  simp only [List.mem_filter, List.mem_map, and_imp, forall_exists_index,
    forall_apply_eq_imp_iff₂]

/-! ## All figures -/

theorem measures_of_figures {figures : List LocaleCoverage} (h : c.figures files = .ok figures) :
    ∃ source, c.Measures files source figures := by
  obtain ⟨loaded, hloaded, hfigures⟩ := figures_eq_ok h
  obtain ⟨messages, hmessages, -⟩ := exists_compiled_of_loadAt hloaded
  obtain ⟨hlocales, hspec⟩ := figuresFrom_spec hfigures
  have hordered : (loaded.catalog.store.keys loaded.locale).Pairwise (· < ·) :=
    Store.keys_pairwise _ _
  have hkeys : ∀ key, key ∈ loaded.catalog.store.keys loaded.locale ↔
      files.Defines c.source key := fun key =>
    (mem_keys_of_blank hloaded).trans (and_iff_right (stem?_of_compiled hmessages))
  refine ⟨_, hordered, hkeys, hlocales, fun f hf => ?_, fun before f after hsplit key => ?_⟩
  · obtain ⟨before, after, hsplit⟩ := List.append_of_mem hf
    obtain ⟨keys, hof, -⟩ := hspec before f after hsplit
    rw [hof, count_of_blank hloaded]
    exact LocaleCoverage.consistent_of hordered f.locale keys
  · rw [mem_missing_iff h hsplit, hkeys, List.forall_mem_cons, List.forall_mem_map,
      List.map_append]
    rfl

/-- With figures, a strict command complains exactly if a key is missing somewhere, and another
command never. -/
theorem run_of_figures {figures : List LocaleCoverage} (h : c.figures files = .ok figures) :
    (c.run files).output = c.output figures ∧
      (c.strict = true → ((c.run files).code = .invalidData ↔ ∃ f ∈ figures, f.missing ≠ [])) ∧
      (c.strict = false → (c.run files).code = .success) := by
  rw [run, h]
  refine ⟨rfl, fun hstrict => ?_, fun hlenient => ?_⟩
  · simp [hstrict]
  · simp [hlenient]

/-- The three numbers of a coverage stay in step. If every document can be loaded, there is one
figure for each listed locale in the order of the list, repeated ones and those without a file
included, and every figure fits the keys of the source, whichever keys other documents add. A strict
command then fails exactly if a key is missing in one of them. If a document cannot be loaded,
nothing is written, and the first such document is reported. -/
theorem figures_in_step (c : CoverageCommand) (files : Files) :
    ((∀ path ∈ c.documents files, ∃ result, checkFile files path = .ok result) →
      ∃ source figures, c.figures files = .ok figures ∧ c.Measures files source figures ∧
        (c.run files).output = c.output figures ∧
        (c.strict = true → ((c.run files).code = .invalidData ↔ ∃ f ∈ figures, f.missing ≠ [])) ∧
        (c.strict = false → (c.run files).code = .success)) ∧
    ((∃ path ∈ c.documents files, ∃ e, checkFile files path = .error e) →
      (c.run files).output = "" ∧ (c.run files).code = .failure ∧
        (c.run files).errors = (files.refusals (c.documents files)).take 1) := by
  constructor
  · intro hall
    obtain ⟨figures, h⟩ := (exists_figures_iff_documents c files).2 hall
    obtain ⟨source, hmeasures⟩ := measures_of_figures h
    exact ⟨source, figures, h, hmeasures, run_of_figures h⟩
  · rintro ⟨path, hpath, e, he⟩
    cases h : c.figures files with
    | ok figures =>
      obtain ⟨result, hresult⟩ := (exists_figures_iff_documents c files).1 ⟨figures, h⟩ path hpath
      cases he.symm.trans hresult
    | error first =>
      obtain ⟨more, hrefusals⟩ := List.head?_eq_some_iff.1 (figures_eq_error h)
      rw [run, h, hrefusals]
      exact ⟨rfl, rfl, rfl⟩

/-- An English source with two messages, and a folder with a German document that has one of them
and another key, an English document with that key alone, no French document, and a Danish one that
breaks off. -/
def patchy : Files
  | "src/en.json" => .file (.ok "\x7b\"b\":\"B\",\"a\":\"A\"\x7d")
  | "tr/de.json" => .file (.ok "\x7b\"b\":\"B\",\"z\":\"Z\"\x7d")
  | "tr/en.json" => .file (.ok "\x7b\"z\":\"Z\"\x7d")
  | "tr/da.json" => .file (.ok "\x7b")
  | _ => .missing .notFound

/-- Measures some locales of the folder against the source. -/
def strictly (locales : List String) : CoverageCommand :=
  { source := "src/en.json", locales := locales, ownFolder := some "tr", strict := true,
    json := true }

theorem figures_of_strictly :
    (strictly ["de", "en", "fr", "de"]).figures patchy =
      .ok [⟨"de", 1, 2, ["a"]⟩, ⟨"en", 2, 2, []⟩, ⟨"fr", 0, 2, ["a", "b"]⟩,
        ⟨"de", 1, 2, ["a"]⟩] := by
  have hgerman : (strictly ["de", "en", "fr", "de"]).fileOf "de" = "tr/de.json" := rfl
  have henglish : (strictly ["de", "en", "fr", "de"]).fileOf "en" = "tr/en.json" := rfl
  have hfrench : (strictly ["de", "en", "fr", "de"]).fileOf "fr" = "tr/fr.json" := rfl
  unfold figures
  simp only [show (strictly ["de", "en", "fr", "de"]).locales = ["de", "en", "fr", "de"] from rfl,
    figuresFrom, loadLocale, hgerman, henglish, hfrench]
  cbv

/-- The keys of the source are all that is measured, though both other documents add one, and the
French locale misses both without a file. With the document that breaks off there are no figures. -/
theorem figures_of_patchy :
    (∃ source, (strictly ["de", "en", "fr", "de"]).Measures patchy source
        [⟨"de", 1, 2, ["a"]⟩, ⟨"en", 2, 2, []⟩, ⟨"fr", 0, 2, ["a", "b"]⟩, ⟨"de", 1, 2, ["a"]⟩] ∧
      ((strictly ["de", "en", "fr", "de"]).run patchy).code = .invalidData) ∧
    ((strictly ["de", "da"]).run patchy).output = "" ∧
      ((strictly ["de", "da"]).run patchy).code = .failure := by
  have hloadable : ∀ path ∈ (strictly ["de", "en", "fr", "de"]).documents patchy,
      ∃ result, checkFile patchy path = .ok result :=
    (exists_figures_iff_documents _ _).1 ⟨_, figures_of_strictly⟩
  have hdanish : checkFile patchy "tr/da.json" =
      .error (.document "tr/da.json" "\x7b" ⟨.notJson .endInObject, some ⟨1, 1⟩⟩) := by
    cbv
  have hlisted : "tr/da.json" ∈ (strictly ["de", "da"]).documents patchy := by
    decide +kernel
  obtain ⟨source, figures, hfigures, hmeasures, -, hstrict, -⟩ :=
    (figures_in_step (strictly ["de", "en", "fr", "de"]) patchy).1 hloadable
  obtain rfl := Except.ok.inj (figures_of_strictly.symm.trans hfigures)
  obtain ⟨houtput, hcode, -⟩ :=
    (figures_in_step (strictly ["de", "da"]) patchy).2 ⟨_, hlisted, _, hdanish⟩
  exact ⟨⟨source, hmeasures, (hstrict rfl).2 ⟨_, List.mem_cons_self, List.cons_ne_nil _ _⟩⟩,
    houtput, hcode⟩

end CoverageCommand

end Parlance

import Parlance.Console.Coverage
import Parlance.Proofs.Console.Loading

/-!
# Coverage by documents

The documents of the source and of the listed locales are loaded one after the other into one
catalog, under the names of their files, and a locale is measured by what the catalog then has for
it. So a locale is measured by its own document, with one exception: the locale that the source is
written in has the source itself in the catalog, and misses nothing whatever its own document
defines.

Results:
1. `stem?_join`: the file of a locale is loaded under the name of the locale.
2. `exists_figures_iff`: when there are figures.
3. `figuresFrom_spec`: which documents a figure counts.
4. `missing_of_own`, `mem_missing_iff_of_ne`: what a locale misses.
5. `figures_by_document`: what the figures say.
-/

namespace Parlance

/-! ## Names of files -/

namespace Path

/-- The text is a name in a folder: it is not empty and has no slash. -/
def IsName (text : String) : Prop :=
  text ≠ "" ∧ '/' ∉ text.toList

theorem segments_join (folder : String) {name : String} (hname : IsName name) :
    ∃ before, segments (join folder name) = before ++ [name.toList] := by
  have halone : name.toList.splitOn '/' = [name.toList] := List.splitOn_eq_singleton hname.2
  have hbehind : ∀ cs : List Char, ∃ before,
      (cs ++ '/' :: name.toList).splitOn '/' = before ++ [name.toList] := by
    intro cs
    rw [List.splitOn_append_cons_self, halone]
    exact ⟨_, rfl⟩
  unfold segments join
  split
  · exact ⟨[], halone⟩
  · split
    · next hslash =>
      obtain ⟨cs, hcs⟩ := List.getLast?_eq_some_iff.1 hslash
      rw [String.toList_append, hcs, List.append_assoc]
      exact hbehind cs
    · rw [String.toList_append, String.toList_append, List.append_assoc]
      exact hbehind folder.toList

/-- A path ends with the name that it was given, if the name is too long for one or two dots. -/
theorem name?_join (folder : String) {name : String} (hname : IsName name)
    (hlong : 2 < name.toList.length) : name? (join folder name) = some name.toList := by
  obtain ⟨before, hsegments⟩ := segments_join folder hname
  have hidle : isIdle name.toList = false := by
    rw [isIdle, Bool.or_eq_false_iff, beq_eq_false_iff_ne, beq_eq_false_iff_ne]
    constructor <;> intro heq <;> simp [heq] at hlong
  have habove : name.toList ≠ above := fun heq => by simp [heq, above] at hlong
  rw [name?, hsegments, List.filter_append, List.filter_cons_of_pos (by simpa using hidle),
    List.filter_nil, List.getLast?_concat]
  exact if_neg habove

theorem beforeDot_json (name : List Char) : beforeDot (name ++ ".json".toList) = name := by
  simp [beforeDot]

/-- The stem of the file of a name is the name. -/
theorem stem?_join (folder : String) {name : String} (hname : IsName name) :
    stem? (join folder (name ++ ".json")) = some name := by
  obtain ⟨hne, hslash⟩ := hname
  have hname : name? (join folder (name ++ ".json")) = some (name ++ ".json").toList :=
    name?_join folder ⟨fun h => by simpa using congrArg String.toList h, by simpa using hslash⟩
      (by simp)
  have hkept : (beforeDot (name ++ ".json").toList).isEmpty = false := by
    rw [String.toList_append, beforeDot_json]
    simpa using hne
  rw [stem?, hname, Option.map_some, stem, hkept, if_neg Bool.false_ne_true, String.toList_append,
    beforeDot_json, String.ofList_toList]

end Path

namespace CoverageCommand

variable {c : CoverageCommand} {files : Files} {catalog : Catalog} {locale key : String}

/-! ## One locale -/

theorem not_defines_of_missing {path : String} (h : (files path).isThere = false) :
    ¬files.Defines path key := by
  rintro ⟨fields, ⟨text, htext, -⟩, -⟩
  cases hentry : files path with
  | file content => simp [hentry, Entry.isThere] at h
  | folder names => simp [hentry, Entry.isThere] at h
  | missing failure => simp [hentry, Entry.read] at htext

theorem exists_loadLocale_iff (catalog : Catalog) (locale : String) :
    (∃ after, c.loadLocale files catalog locale = .ok after) ↔
      ((files (c.fileOf locale)).isThere = true →
        ∃ result, checkFile files (c.fileOf locale) = .ok result) := by
  rw [loadLocale]
  by_cases hthere : (files (c.fileOf locale)).isThere = true
  · rw [if_pos hthere, loadAt_eq, checkFile_eq]
    cases files.compiled (c.fileOf locale) with
    | error e => simp [hthere]
    | ok found => simp
  · rw [if_neg hthere]
    simp [hthere]

/-- The file of a locale adds the keys that it defines to those of the locale in its name. -/
theorem mem_keys_of_loadLocale {after : Catalog} {listed : String}
    (h : c.loadLocale files catalog listed = .ok after) :
    key ∈ after.store.keys locale ↔
      files.IsLayer locale key (c.fileOf listed) ∨ key ∈ catalog.store.keys locale := by
  rw [loadLocale] at h
  split at h
  · next hthere =>
    cases hloaded : catalog.loadAt files (c.fileOf listed) with
    | error e =>
      rw [hloaded] at h
      cases h
    | ok loaded =>
      rw [hloaded] at h
      cases h
      exact mem_keys_of_loadAt hloaded
  · next hthere =>
    cases h
    have hdefines : ¬files.Defines (c.fileOf listed) key :=
      not_defines_of_missing (Bool.not_eq_true _ ▸ hthere)
    simp [Files.IsLayer, hdefines]

/-! ## All locales -/

theorem figuresFrom_cons_eq_ok {total : Nat} {source rest : List String}
    {figures : List LocaleCoverage} (h : c.figuresFrom files total source catalog (locale :: rest) =
      .ok figures) :
    ∃ after others, c.loadLocale files catalog locale = .ok after ∧
      c.figuresFrom files total source after rest = .ok others ∧
      figures = .of locale total source (after.store.keys locale) :: others := by
  rw [figuresFrom] at h
  cases hafter : c.loadLocale files catalog locale with
  | error e =>
    rw [hafter] at h
    cases h
  | ok after =>
    rw [hafter] at h
    dsimp only at h
    cases hothers : c.figuresFrom files total source after rest with
    | error e =>
      rw [hothers] at h
      cases h
    | ok others =>
      rw [hothers] at h
      cases h
      exact ⟨after, others, rfl, hothers, rfl⟩

theorem exists_figuresFrom_iff (total : Nat) (source : List String) (catalog : Catalog)
    (locales : List String) :
    (∃ figures, c.figuresFrom files total source catalog locales = .ok figures) ↔
      ∀ l ∈ locales, (files (c.fileOf l)).isThere = true →
        ∃ result, checkFile files (c.fileOf l) = .ok result := by
  induction locales generalizing catalog with
  | nil => simp [figuresFrom]
  | cons l rest ih =>
    rw [List.forall_mem_cons, ← exists_loadLocale_iff catalog l]
    constructor
    · rintro ⟨figures, h⟩
      obtain ⟨after, others, hafter, hothers, -⟩ := figuresFrom_cons_eq_ok h
      exact ⟨⟨after, hafter⟩, (ih after).1 ⟨others, hothers⟩⟩
    · rintro ⟨⟨after, hafter⟩, hrest⟩
      obtain ⟨others, hothers⟩ := (ih after).2 hrest
      rw [figuresFrom, hafter]
      dsimp only
      rw [hothers]
      exact ⟨_, rfl⟩

/-- A figure counts the keys that the catalog had at first and those of the files up to its own. -/
theorem figuresFrom_spec {total : Nat} {source locales : List String}
    {figures : List LocaleCoverage}
    (h : c.figuresFrom files total source catalog locales = .ok figures) :
    figures.map (·.locale) = locales ∧
    ∀ before f after, figures = before ++ f :: after →
      ∃ keys, f = .of f.locale total source keys ∧ ∀ key, key ∈ keys ↔
        key ∈ catalog.store.keys f.locale ∨
        ∃ l ∈ before.map (·.locale) ++ [f.locale], files.IsLayer f.locale key (c.fileOf l) := by
  induction locales generalizing catalog figures with
  | nil =>
    cases h
    exact ⟨rfl, fun before f after hsplit => by simp at hsplit⟩
  | cons l rest ih =>
    obtain ⟨loaded, others, hloaded, hothers, rfl⟩ := figuresFrom_cons_eq_ok h
    obtain ⟨hlocales, hfigures⟩ := ih hothers
    refine ⟨congrArg (List.cons l) hlocales, fun before f after hsplit => ?_⟩
    cases before with
    | nil =>
      obtain ⟨rfl, rfl⟩ := List.cons.inj hsplit
      refine ⟨_, rfl, fun key => ?_⟩
      rw [mem_keys_of_loadLocale hloaded, or_comm]
      simp [LocaleCoverage.of]
    | cons g before =>
      obtain ⟨rfl, rfl⟩ := List.cons.inj hsplit
      obtain ⟨keys, hf, hkeys⟩ := hfigures before f after rfl
      refine ⟨keys, hf, fun key => ?_⟩
      -- The file that was loaded first is the first of those before.
      rw [hkeys, mem_keys_of_loadLocale hloaded, List.map_cons, List.cons_append,
        List.exists_mem_cons_iff, or_comm (a := files.IsLayer _ _ _), or_assoc]
      rfl

/-! ## The source -/

theorem mem_keys_of_blank {path : String} {loaded : Loaded}
    (h : Catalog.blank.loadAt files path = .ok loaded) :
    key ∈ loaded.catalog.store.keys locale ↔ files.IsLayer locale key path := by
  rw [mem_keys_of_loadAt h]
  exact or_iff_left (List.not_mem_nil (a := key))

/-- The keys of the source are counted as its messages. -/
theorem count_of_blank {path : String} {loaded : Loaded}
    (h : Catalog.blank.loadAt files path = .ok loaded) :
    loaded.count = (loaded.catalog.store.keys loaded.locale).length := by
  obtain ⟨messages, hmessages, -, hcount⟩ := exists_compiled_of_loadAt h
  obtain ⟨hstem, fields, members, hholds, hmembers, hcompiled⟩ := compiled_eq_ok hmessages
  have hnodup : (loaded.catalog.store.keys loaded.locale).Nodup :=
    (Store.keys_pairwise _ _).imp String.ne_of_lt
  have hsame : (Dict.names fields).toFinset =
      (loaded.catalog.store.keys loaded.locale).toFinset := by
    ext key
    rw [List.mem_toFinset, List.mem_toFinset, mem_keys_of_blank h, Files.IsLayer,
      hholds.defines_iff]
    exact (and_iff_right hstem).symm
  rw [hcount, length_of_compileMembers hmembers hcompiled, hsame,
    List.toFinset_card_of_nodup hnodup]

theorem figures_eq_ok {figures : List LocaleCoverage} (h : c.figures files = .ok figures) :
    ∃ loaded, Catalog.blank.loadAt files c.source = .ok loaded ∧
      c.figuresFrom files loaded.count (loaded.catalog.store.keys loaded.locale) loaded.catalog
        c.locales = .ok figures := by
  rw [CoverageCommand.figures] at h
  cases hloaded : Catalog.blank.loadAt files c.source with
  | error e =>
    rw [hloaded] at h
    cases h
  | ok loaded =>
    rw [hloaded] at h
    exact ⟨loaded, rfl, h⟩

/-- There are figures exactly if the source and every file of a listed locale that is there can be
loaded, each on its own. -/
theorem exists_figures_iff (c : CoverageCommand) (files : Files) :
    (∃ figures, c.figures files = .ok figures) ↔
      (∃ result, checkFile files c.source = .ok result) ∧
      ∀ l ∈ c.locales, (files (c.fileOf l)).isThere = true →
        ∃ result, checkFile files (c.fileOf l) = .ok result := by
  rw [CoverageCommand.figures, checkFile]
  cases Catalog.blank.loadAt files c.source with
  | error e => simp
  | ok loaded =>
    rw [← exists_figuresFrom_iff loaded.count (loaded.catalog.store.keys loaded.locale)
      loaded.catalog]
    simp

/-! ## The figures -/

theorem mem_missing_of {total : Nat} {source keys : List String} :
    key ∈ (LocaleCoverage.of locale total source keys).missing ↔ key ∈ source ∧ key ∉ keys := by
  simp [LocaleCoverage.of]

/-- A key of the source is missing in a locale if neither the source, read as a document of the
locale, nor any of the files loaded so far defines it there. -/
theorem mem_missing_iff {figures before after : List LocaleCoverage} {f : LocaleCoverage}
    (h : c.figures files = .ok figures) (hsplit : figures = before ++ f :: after) :
    key ∈ f.missing ↔ files.Defines c.source key ∧ ¬files.IsLayer f.locale key c.source ∧
      ∀ l ∈ before.map (·.locale) ++ [f.locale], ¬files.IsLayer f.locale key (c.fileOf l) := by
  obtain ⟨loaded, hloaded, hfigures⟩ := figures_eq_ok h
  obtain ⟨messages, hmessages, -⟩ := exists_compiled_of_loadAt hloaded
  obtain ⟨keys, hf, hkeys⟩ := (figuresFrom_spec hfigures).2 before f after hsplit
  rw [hf, mem_missing_of, ← hf, mem_keys_of_blank hloaded, hkeys, mem_keys_of_blank hloaded,
    Files.IsLayer, stem?_of_compiled hmessages]
  simp only [true_and, not_or, not_exists, not_and]

/-- The file of a locale is a document of this locale and of no other. -/
theorem isLayer_fileOf_iff {l : String} (hl : Path.IsName l) :
    files.IsLayer locale key (c.fileOf l) ↔
      l = locale ∧ files.Defines (c.fileOf locale) key := by
  rw [Files.IsLayer, fileOf, Path.stem?_join _ hl, Option.some_inj]
  constructor
  · rintro ⟨rfl, hdefines⟩
    exact ⟨rfl, hdefines⟩
  · rintro ⟨rfl, hdefines⟩
    exact ⟨rfl, hdefines⟩

section

variable {figures : List LocaleCoverage} {f : LocaleCoverage} {own : String}
  (h : c.figures files = .ok figures) (hf : f ∈ figures) (hstem : Path.stem? c.source = some own)

include h hf hstem

/-- The locale of the source misses nothing. -/
theorem missing_of_own (hown : f.locale = own) : f.missing = [] := by
  obtain ⟨before, after, hsplit⟩ := List.append_of_mem hf
  rw [List.eq_nil_iff_forall_not_mem]
  intro key hkey
  obtain ⟨hdefines, hlayer, -⟩ := (mem_missing_iff h hsplit).1 hkey
  exact hlayer ⟨hown ▸ hstem, hdefines⟩

/-- Another locale misses the keys of the source that its own document does not define. -/
theorem mem_missing_iff_of_ne (hother : f.locale ≠ own) (hnames : ∀ l ∈ c.locales, Path.IsName l) :
    key ∈ f.missing ↔ files.Defines c.source key ∧ ¬files.Defines (c.fileOf f.locale) key := by
  obtain ⟨before, after, hsplit⟩ := List.append_of_mem hf
  obtain ⟨loaded, -, hfigures⟩ := figures_eq_ok h
  have hname : ∀ l ∈ before.map (·.locale) ++ [f.locale], Path.IsName l := by
    intro l hl
    apply hnames
    rw [← (figuresFrom_spec hfigures).1, hsplit, List.map_append, List.map_cons, List.append_cons]
    exact List.mem_append_left _ hl
  have hsource : ¬files.IsLayer f.locale key c.source := by
    rintro ⟨hstem', -⟩
    exact hother (Option.some.inj (hstem'.symm.trans hstem))
  have hlast : f.locale ∈ before.map (·.locale) ++ [f.locale] := by simp
  rw [mem_missing_iff h hsplit, and_iff_right hsource]
  refine and_congr_right fun _ => ⟨fun hnone hdefines => ?_, fun hundefined l hl hlayer => ?_⟩
  · exact hnone f.locale hlast ((isLayer_fileOf_iff (hname _ hlast)).2 ⟨rfl, hdefines⟩)
  · exact hundefined ((isLayer_fileOf_iff (hname l hl)).1 hlayer).2

end

/-- The figures of a locale are about its own document: what is missing are the keys of the source
that it does not define, whichever other locales are listed and in whichever order, as long as all
of them can be names of files, without a slash and not empty. Only the locale that the source is
written in misses nothing, whatever its own document defines. -/
theorem figures_by_document (c : CoverageCommand) (files : Files) :
    ((∃ figures, c.figures files = .ok figures) ↔
      (∃ result, checkFile files c.source = .ok result) ∧
      ∀ l ∈ c.locales, (files (c.fileOf l)).isThere = true →
        ∃ result, checkFile files (c.fileOf l) = .ok result) ∧
    ∀ figures, c.figures files = .ok figures → ∃ own source,
      Path.stem? c.source = some own ∧
      source.Pairwise (· < ·) ∧ (∀ key, key ∈ source ↔ files.Defines c.source key) ∧
      figures.map (·.locale) = c.locales ∧
      ∀ f ∈ figures, f.total = source.length ∧ f.translated + f.missing.length = f.total ∧
        f.missing.Sublist source ∧ (f.locale = own → f.missing = []) ∧
        (f.locale ≠ own → (∀ l ∈ c.locales, Path.IsName l) →
          ∀ key, key ∈ f.missing ↔ key ∈ source ∧ ¬files.Defines (c.fileOf f.locale) key) := by
  refine ⟨c.exists_figures_iff files, fun figures h => ?_⟩
  obtain ⟨loaded, hloaded, hfigures⟩ := figures_eq_ok h
  obtain ⟨messages, hmessages, -⟩ := exists_compiled_of_loadAt hloaded
  have hstem := stem?_of_compiled hmessages
  have hsource : ∀ key, key ∈ loaded.catalog.store.keys loaded.locale ↔
      files.Defines c.source key := fun key =>
    (mem_keys_of_blank hloaded).trans (and_iff_right hstem)
  obtain ⟨hlocales, hcounts⟩ := figuresFrom_spec hfigures
  refine ⟨loaded.locale, loaded.catalog.store.keys loaded.locale, hstem, Store.keys_pairwise _ _,
    hsource, hlocales, fun f hf => ?_⟩
  obtain ⟨before, after, hsplit⟩ := List.append_of_mem hf
  obtain ⟨keys, heq, -⟩ := hcounts before f after hsplit
  have hsublist : f.missing.Sublist (loaded.catalog.store.keys loaded.locale) := by
    rw [heq]
    exact List.filter_sublist
  have htotal : f.total = (loaded.catalog.store.keys loaded.locale).length := by
    rw [heq]
    exact count_of_blank hloaded
  have htranslated : f.translated = f.total - f.missing.length := by
    rw [heq]
    rfl
  refine ⟨htotal, ?_, hsublist, missing_of_own h hf hstem, fun hother hnames key => ?_⟩
  · have := hsublist.length_le
    omega
  · rw [mem_missing_iff_of_ne h hf hstem hother hnames, hsource]

/-- An English source with two messages, and a folder with a German document of one of them and an
English document of none. -/
def bilingual : Files
  | "src/en.json" => .file (.ok "\x7b\"a\":\"A\",\"b\":\"B\"\x7d")
  | "tr/de.json" => .file (.ok "\x7b\"b\":\"B\"\x7d")
  | "tr/en.json" => .file (.ok "\x7b\x7d")
  | _ => .missing .notFound

/-- Measures both documents of the folder against the source. -/
def measuring : CoverageCommand :=
  { source := "src/en.json", locales := ["de", "en"], ownFolder := some "tr", strict := false,
    json := true }

theorem figures_of_measuring :
    measuring.figures bilingual = .ok [⟨"de", 1, 2, ["a"]⟩, ⟨"en", 2, 2, []⟩] := by
  have hgerman : measuring.fileOf "de" = "tr/de.json" := rfl
  have henglish : measuring.fileOf "en" = "tr/en.json" := rfl
  unfold figures
  simp only [show measuring.locales = ["de", "en"] from rfl, figuresFrom, loadLocale, hgerman,
    henglish]
  cbv

/-- What is missing in German is what the German document does not define, and in English
nothing. -/
theorem german_by_document :
    ∃ german english, measuring.figures bilingual = .ok [german, english] ∧
      (∀ key, key ∈ german.missing ↔ bilingual.Defines "src/en.json" key ∧
        ¬bilingual.Defines "tr/de.json" key) ∧
      english.missing = [] := by
  obtain ⟨own, source, hstem, -, hsource, -, hall⟩ :=
    (figures_by_document measuring bilingual).2 _ figures_of_measuring
  obtain rfl : "en" = own := by
    have henglish : Path.stem? measuring.source = some "en" := by cbv
    exact Option.some.inj (henglish.symm.trans hstem)
  obtain ⟨-, -, -, -, hgerman⟩ := hall ⟨"de", 1, 2, ["a"]⟩ (by simp)
  obtain ⟨-, -, -, henglish, -⟩ := hall ⟨"en", 2, 2, []⟩ (by simp)
  refine ⟨_, _, figures_of_measuring, fun key => ?_, henglish rfl⟩
  rw [hgerman (by decide) (by simp [measuring, Path.IsName]), hsource]
  rfl

/-- The English document of the folder does not define the key `a` of the source, but English is
not found to miss it: the catalog has it from the source. -/
theorem own_locale_misses_nothing :
    measuring.figures bilingual = .ok [⟨"de", 1, 2, ["a"]⟩, ⟨"en", 2, 2, []⟩] ∧
    bilingual.Defines measuring.source "a" ∧ ¬bilingual.Defines (measuring.fileOf "en") "a" := by
  have hsource : bilingual.Holds "src/en.json" [("a", .string "A"), ("b", .string "B")] :=
    ⟨_, rfl, by unfold Document.IsObject; cbv⟩
  have henglish : bilingual.Holds "tr/en.json" [] := ⟨_, rfl, by unfold Document.IsObject; cbv⟩
  exact ⟨figures_of_measuring, hsource.defines_iff.2 List.mem_cons_self,
    mt henglish.defines_iff.1 List.not_mem_nil⟩

end CoverageCommand

end Parlance

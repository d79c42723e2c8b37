import Parlance.Proofs.Catalog.Lookup
import Parlance.Proofs.Console.Coverage
import Parlance.Proofs.Console.Eval
import Parlance.Proofs.Evaluation.Translation
import Parlance.Proofs.Locale.Chain
import Parlance.Proofs.Locale.Normal

/-!
# The default locale of a command

A command that is given no default locale takes the value of the variable as it stands, where
everything else takes the locale that the value spells, and goes on to the host if it spells none.
So the two agree exactly if the variable is not there or its value is a locale already. Any other
value can be told from the locale that is meant by a message that a document of that locale gives
in place of a built-in one.

Results:
1. `run_of_default`: a command uses its default locale and nothing else of the environment.
2. `resolvedDefault_eq_detectDefault_iff`: when the two default locales are the same.
3. `run_conjunction`: a command whose output tells the default locale from others.
4. `default_of_environment`: what a command does in an environment.
-/

namespace Parlance

/-! ## Translations of a text -/

/-- With the built-in formatters a message that is a text is translated as this text. -/
theorem translateTo_of_text {t : Translator} {r : Message} {locale text : String}
    (hregistry : t.registry = Registry.builtins .byTag) (hdepth : t.setting.maxDepth = 64)
    (hlookup : t.catalog.lookup r locale = .ok (Compiled.ofText text)) :
    (t.translateTo r locale).1 = .ok text := by
  have hbuiltin : t.registry.IsBuiltin .byTag := hregistry ▸ Registry.isBuiltin_builtins .byTag
  rw [(translateTo_eq_evaluateWithin hbuiltin r locale).1, hdepth, Evaluation.evaluateWithin,
    Evaluation.requestText, hlookup]
  simp [Compiled.ofText, Evaluation.fragmentText, bind, Except.bind, pure, Except.pure,
    Except.mapError]

namespace Locale

variable {locale : String}

theorem WellFormed.isName (h : WellFormed locale) : Path.IsName locale := by
  constructor
  · rintro rfl
    exact absurd (isTag_iff.2 h) (by decide +kernel)
  · intro hslash
    rcases h.underscore_or_isAlphanum hslash with h | h <;> cases h

/-- A locale in the variable is the default locale, whatever the host says. -/
theorem WellFormed.detectDefault_eq {lookup : String → Option String} {raw : String}
    (h : WellFormed raw) (hraw : lookup overrideVariable = some raw) (host : Option String) :
    detectDefault lookup host = raw :=
  resolveDefault_of_override ⟨raw, hraw, h, h.spells⟩

theorem wellFormed_detectDefault (lookup : String → Option String) (host : Option String) :
    WellFormed (detectDefault lookup host) :=
  wellFormed_resolveDefault _ _

end Locale

namespace EvalCommand

variable {c : EvalCommand} {files : Files} {lookup : String → Option String}
  {host : Option String} {default : String}

/-! ## The default locale -/

theorem resolvedDefault_of_none (h : c.defaultLocale = none) (lookup : String → Option String)
    (host : Option String) :
    c.resolvedDefault lookup host =
      (lookup Locale.overrideVariable).getD (Locale.detectDefault lookup host) := by
  rw [resolvedDefault, h]
  cases lookup Locale.overrideVariable <;> rfl

/-- All that a command takes from the environment is its default locale. -/
theorem run_of_default (h : c.resolvedDefault lookup host = default) :
    c.run files lookup host =
      { c with defaultLocale := some default }.run files lookup host := by
  subst h
  rfl

/-- The default locale of a command is the one that the environment stands for if it takes a locale
from there that is one, or takes none. -/
theorem resolvedDefault_eq_detectDefault_iff (h : c.defaultLocale = none) :
    c.resolvedDefault lookup host = Locale.detectDefault lookup host ↔
      ∀ raw, lookup Locale.overrideVariable = some raw → Locale.WellFormed raw := by
  rw [resolvedDefault_of_none h]
  cases hraw : lookup Locale.overrideVariable with
  | none => simp
  | some raw =>
    rw [Option.getD_some]
    constructor
    · rintro heq _ ⟨⟩
      exact heq ▸ Locale.wellFormed_detectDefault lookup host
    · intro hformed
      exact ((hformed raw rfl).detectDefault_eq hraw host).symm

/-! ## A telling command -/

/-- A command for the word between two items, with one catalog file. -/
def conjunction (path : String) : EvalCommand :=
  { key := "list.and", catalogs := [path], locale := none, defaultLocale := none, arguments := [],
    lenient := false, json := false }

/-- One document, with its own word between two items. -/
def ampersand (path : String) : Files :=
  Files.only path "\x7b\"list.and\":\" & \"\x7d"

theorem compiled_ampersand {locale : String} (h : Path.IsName locale) :
    (ampersand (locale ++ ".json")).compiled (locale ++ ".json") =
      .ok (locale, [("list.and", Compiled.ofText " & ")]) := by
  have hjoin : Path.join "" (locale ++ ".json") = locale ++ ".json" := by simp [Path.join]
  have hstem : Path.stem? (locale ++ ".json") = some locale := hjoin ▸ Path.stem?_join "" h
  have hread : (ampersand (locale ++ ".json") (locale ++ ".json")).read =
      .ok "\x7b\"list.and\":\" & \"\x7d" := Files.read_only _ _
  have hparse : Document.parse "\x7b\"list.and\":\" & \"\x7d" =
      .ok [("list.and", .text " & ")] := by cbv
  rw [Files.compiled, hstem]
  dsimp only
  rw [hread]
  dsimp only
  rw [Catalog.compileDocument, hparse]
  rfl

/-- What stands under the key of the word when the document was loaded. -/
theorem stands_ampersand {locale default : String} (h : Path.IsName locale) :
    (ampersand (locale ++ ".json")).Stands [locale ++ ".json"]
      ((Dict.last? "list.and" builtinMessages).map Compiled.ofText) default "list.and"
      (Compiled.ofText (if default = locale then " & " else " and ")) := by
  have hcompiled := compiled_ampersand h
  have hstem := stem?_of_compiled hcompiled
  by_cases heq : default = locale
  · subst heq
    have hdefines := (mem_names_compiled hcompiled).1 List.mem_cons_self
    rw [if_pos rfl]
    exact Or.inl ⟨[], _, [], rfl, ⟨hstem, hdefines⟩, List.forall_mem_nil _,
      (last?_compiled hcompiled).1 rfl⟩
  · rw [if_neg heq]
    refine Or.inr ⟨List.forall_mem_singleton.2 fun hlayer => heq ?_, rfl⟩
    exact Option.some.inj (hlayer.1.symm.trans hstem)

/-- The word is the one of the document if the document is for the default locale, else the built-in
one. -/
theorem run_conjunction {locale : String} (h : Path.IsName locale) (default : String)
    (lookup : String → Option String) (host : Option String) :
    { conjunction (locale ++ ".json") with defaultLocale := some default }.run
        (ampersand (locale ++ ".json")) lookup host =
      { code := .success, output := if default = locale then " & \n" else " and \n" } := by
  generalize hc : { conjunction (locale ++ ".json") with defaultLocale := some default } = c
  have hdefault : c.resolvedDefault lookup host = default := by
    rw [← hc]
    rfl
  have hpaths : c.catalogs.flatMap (catalogFiles (ampersand (locale ++ ".json"))) =
      [locale ++ ".json"] := by
    rw [← hc]
    simp [conjunction, catalogFiles, ampersand, Files.only]
  have haccepted : (ampersand (locale ++ ".json")).refusals [locale ++ ".json"] = [] := by
    rw [refusals_cons, checkFile_eq, compiled_ampersand h]
    rfl
  obtain ⟨t, hloaded, hlayers⟩ := exists_loadAll haccepted (c.translator default)
  have hprepared := Prepared.of_layers hlayers
  have hword : t.catalog.get? "list.and" default =
      some (Compiled.ofText (if default = locale then " & " else " and ")) := by
    rw [hprepared.messages, if_pos rfl]
    exact stands_ampersand h
  have hchain : (t.catalog.chain default).head? = some default := by
    rw [Catalog.chain, hprepared.fallback]
    exact Locale.head?_truncatingChain default default
  have hkey : c.request.key = "list.and" := by
    rw [← hc]
    rfl
  have hlocale : c.locale = none := by
    rw [← hc]
    rfl
  have houtput : ∀ text, c.output default text = text ++ "\n" := by
    intro text
    rw [← hc]
    rfl
  have htext : (t.translateTo c.request default).1 =
      .ok (if default = locale then " & " else " and ") := by
    refine translateTo_of_text hprepared.registry hprepared.maxDepth (Catalog.lookup_of_some ?_)
    rw [hkey]
    exact Catalog.find?_of_head hchain hword
  rw [← hdefault, ← hpaths] at hloaded
  rw [run_of_loadAll hloaded, hlocale, Option.getD_none, hdefault, htext]
  dsimp only
  rw [houtput]
  split <;> rfl

/-! ## Environments -/

/-- A command without a default locale takes the value of the variable as it stands, or, if there is
no variable, the locale of the environment. Under this locale it has the built-in messages, it is
searched behind every other, and a message is translated to it if no locale is given. So for every
command and all files it is as if the locale that the environment stands for were given, exactly if
there is no variable or its value is a well-formed locale. The host may say anything. -/
theorem default_of_environment (lookup : String → Option String) (host : Option String) :
    let meant := Locale.detectDefault lookup host
    let used := (lookup Locale.overrideVariable).getD meant
    (∀ (c : EvalCommand) (files : Files), c.defaultLocale = none →
      let paths := c.catalogs.flatMap (catalogFiles files)
      c.run files lookup host = { c with defaultLocale := some used }.run files lookup host ∧
      (files.refusals paths = [] → ∃ t, c.Prepared files paths used t ∧
        c.run files lookup host =
          match (t.translateTo c.request (c.locale.getD used)).1 with
          | .ok text => { code := .success, output := c.output (c.locale.getD used) text }
          | .error e => { code := .invalidData, complaint := c.complaint e })) ∧
    ((∀ (c : EvalCommand) (files : Files), c.defaultLocale = none →
        c.run files lookup host = { c with defaultLocale := some meant }.run files lookup host) ↔
      ∀ raw, lookup Locale.overrideVariable = some raw → Locale.WellFormed raw) := by
  intro meant used
  refine ⟨fun c files hnone => ?_, ?_, fun hformed c files hnone => ?_⟩
  · have hused : c.resolvedDefault lookup host = used := resolvedDefault_of_none hnone lookup host
    refine ⟨run_of_default hused, fun haccepted => ?_⟩
    obtain ⟨t, hloaded, hlayers⟩ := exists_loadAll haccepted (c.translator used)
    refine ⟨t, .of_layers hlayers, ?_⟩
    rw [← hused] at hloaded ⊢
    exact run_of_loadAll hloaded
  · intro hsame
    -- The telling command has the word of the document with the one default locale, and so it has
    -- it with the other.
    have hname : Path.IsName meant := (Locale.wellFormed_detectDefault lookup host).isName
    have hrun := hsame (conjunction (meant ++ ".json")) (ampersand (meant ++ ".json")) rfl
    rw [run_of_default (resolvedDefault_of_none rfl lookup host), run_conjunction hname,
      run_conjunction hname, if_pos rfl] at hrun
    have hused : used = meant := by
      by_contra hne
      rw [if_neg hne] at hrun
      exact absurd (congrArg Outcome.output hrun) (by decide)
    exact (resolvedDefault_eq_detectDefault_iff (c := conjunction "") rfl).1
      ((resolvedDefault_of_none rfl lookup host).trans hused)
  · exact run_of_default ((resolvedDefault_eq_detectDefault_iff hnone).2 hformed)

/-- An environment where the variable asks for Serbian and nothing else is set. -/
def abroad (name : String) : Option String :=
  if name = Locale.overrideVariable then some "sr_RS" else none

/-- On a Swiss host. -/
theorem default_of_abroad :
    let c := conjunction "sr_RS.json"
    let files := ampersand "sr_RS.json"
    let host := some "de-CH"
    Locale.detectDefault abroad host = "sr_RS" ∧
    (∀ raw, abroad Locale.overrideVariable = some raw → Locale.WellFormed raw) ∧
    files.refusals ["sr_RS.json"] = [] ∧ (∃ t, c.Prepared files ["sr_RS.json"] "sr_RS" t) ∧
    c.run files abroad host =
      { c with defaultLocale := some "sr_RS" }.run files abroad host ∧
    c.run files abroad host = { code := .success, output := " & \n" } := by
  intro c files host
  have hformed : Locale.WellFormed "sr_RS" := Locale.isTag_iff.1 (by decide +kernel)
  have hvariable : abroad Locale.overrideVariable = some "sr_RS" := if_pos rfl
  have hmeant : Locale.detectDefault abroad host = "sr_RS" :=
    hformed.detectDefault_eq hvariable host
  have hall : ∀ raw, abroad Locale.overrideVariable = some raw → Locale.WellFormed raw := by
    intro raw hraw
    obtain rfl := Option.some.inj (hvariable.symm.trans hraw)
    exact hformed
  have haccepted : files.refusals ["sr_RS.json"] = [] := by cbv
  obtain ⟨huses, hsame⟩ := default_of_environment abroad host
  rw [hvariable, Option.getD_some] at huses
  rw [hmeant] at hsame
  obtain ⟨t, hprepared, -⟩ := (huses c files rfl).2 haccepted
  have hrun := hsame.2 hall c files rfl
  exact ⟨hmeant, hall, haccepted, ⟨t, hprepared⟩, hrun,
    hrun.trans (run_conjunction hformed.isName "sr_RS" abroad host)⟩

/-- A variable with a hyphen asks for German on a French host. The command does not find the message
of the German document under it, and finds it under the locale that the value spells. -/
theorem hyphen_hides_message :
    let lookup := fun name => if name = Locale.overrideVariable then some "de-DE" else none
    let host := some "fr-FR"
    let files := Files.only "de.json" "\x7b\"k\":\"v\"\x7d"
    let c : EvalCommand :=
      { key := "k", catalogs := ["de.json"], locale := none, defaultLocale := none,
        arguments := [], lenient := false, json := true }
    Locale.detectDefault lookup host = "de_DE" ∧ c.resolvedDefault lookup host = "de-DE" ∧
    (c.run files lookup host).code = .invalidData ∧
    { c with defaultLocale := some (Locale.detectDefault lookup host) }.run files lookup host =
      { code := .success, output := c.output "de_DE" "v" } := by
  intro lookup host files c
  exact ⟨by cbv, by cbv, by decide +kernel, by cbv⟩

end EvalCommand

end Parlance

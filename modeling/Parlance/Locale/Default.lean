import Parlance.Locale.Tag

/-!
# The default locale

Where no locale is named, the environment decides: a variable of this program's own comes first,
then the locale of the host, then English. What the locale of the host is, is up to the host; one
that has nothing but variables to tell it by tells it by the first of them that is set.
-/

namespace Parlance.Locale

/-- The variable that overrides the host's locale. -/
def overrideVariable : String := "TOLK_LOCALE"

/-- The locale where nothing else is usable. -/
def lastResort : String := "en"

/-- The default locale from the override and the host's locale: the first that names a locale. -/
def resolveDefault (override host : Option String) : String :=
  ((override.bind normalize).orElse fun _ => host.bind normalize).getD lastResort

/-- The variables that name the host's locale, the strongest first. -/
def hostVariables : List String :=
  ["LANGUAGE", "LC_ALL", "LC_MESSAGES", "LANG"]

/-- The host's locale by the first of its variables that is not empty. A list of languages stands
for its first. -/
def hostLocale (lookup : String → Option String) : Option String :=
  let values := hostVariables.filterMap fun name =>
    match lookup name with
    | some value => if value.isEmpty then none else some (name, value)
    | none => none
  values.head?.map fun (name, value) =>
    let cs := value.toList
    let first := if name = "LANGUAGE" then cs.takeWhile (· != ':') else cs
    String.ofList ((withoutSuffix first).map fun c => if c = '_' then '-' else c)

/-- The default locale by the variables of the environment and the host's locale. -/
def detectDefault (lookup : String → Option String)
    (host : Option String := hostLocale lookup) : String :=
  resolveDefault (lookup overrideVariable) host

end Parlance.Locale

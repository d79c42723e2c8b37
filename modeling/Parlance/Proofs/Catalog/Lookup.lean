import Parlance.Proofs.Catalog.Store
import Parlance.Proofs.Catalog.Suggestions

/-!
# Look-ups and their reports

A look-up goes along the chain of its locale and takes the first message of its key. If there is
none and missing texts fail, it reports the chain and the best among the keys that it passed by. The
chain may be of any length and may repeat locales; a key that stands in several of them is passed by
once.

Results:
1. `find?_eq_some_iff`: what a search finds (`Catalog.Foremost`).
2. `MissingText.mem_knownKeys_iff`, `MissingText.nodup_knownKeys`: the keys that were passed by.
3. `found_or_reported`: when a look-up succeeds, with what, and what it reports otherwise.
-/

namespace Parlance

/-! ## Definitions -/

namespace Catalog

/-- A message stands under a key in one of the locales, and the key has no message in the locales
before. -/
def Foremost (c : Catalog) (key : String) (locales : List String) (compiled : Compiled) : Prop :=
  ∃ before locale after, locales = before ++ locale :: after ∧
    (∀ l ∈ before, c.get? key l = none) ∧ c.get? key locale = some compiled

/-- A key has a message in one of the locales. -/
def KnownIn (c : Catalog) (locales : List String) (key : String) : Prop :=
  ∃ locale ∈ locales, (c.get? key locale).isSome

end Catalog

/-! ## The keys passed by -/

namespace MissingText

theorem mem_knownKeys_iff {m : MissingText} {key : String} :
    key ∈ m.knownKeys ↔ ∃ locale ∈ m.searched, (m.store.get? locale key).isSome := by
  rw [knownKeys, Dict.mem_names_ofMembers, Dict.names, List.map_map,
    show Prod.fst ∘ (fun key : String => (key, ())) = id from rfl, List.map_id, List.mem_flatMap]
  simp only [Store.mem_keys_iff]

theorem nodup_knownKeys (m : MissingText) : m.knownKeys.Nodup :=
  Dict.names_nodup (Dict.ordered_ofMembers _)

end MissingText

/-! ## Searching -/

namespace Catalog

variable {c : Catalog} {key locale : String}

theorem find?_eq_some_iff {compiled : Compiled} :
    c.find? key locale = some compiled ↔ c.Foremost key (c.chain locale) compiled := by
  rw [find?, Store.find?, List.findSome?_eq_some_iff]
  constructor
  · rintro ⟨before, l, after, hchain, hsome, hbefore⟩
    exact ⟨before, l, after, hchain, hbefore, hsome⟩
  · rintro ⟨before, l, after, hchain, hbefore, hsome⟩
    exact ⟨before, l, after, hchain, hsome, hbefore⟩

theorem find?_eq_none_iff : c.find? key locale = none ↔ ¬c.KnownIn (c.chain locale) key := by
  rw [find?, Store.find?, List.findSome?_eq_none_iff]
  simp [KnownIn, get?]

/-- A key that has a message in one locale only is found wherever this locale is searched. -/
theorem find?_of_only {only : String} {compiled : Compiled}
    (honly : c.get? key only = some compiled) (hothers : ∀ l, l ≠ only → c.get? key l = none)
    (hmem : only ∈ c.chain locale) : c.find? key locale = some compiled := by
  cases hfind : c.find? key locale with
  | none =>
    refine absurd ?_ (find?_eq_none_iff.1 hfind)
    exact ⟨only, hmem, Option.isSome_of_eq_some honly⟩
  | some found =>
    obtain ⟨_, l, _, _, _, hfound⟩ := find?_eq_some_iff.1 hfind
    by_cases hl : l = only
    · subst hl
      exact hfound.symm.trans honly
    · rw [hothers l hl] at hfound
      cases hfound

/-- A message in the first locale that is searched is the one found. -/
theorem find?_of_head {first : String} {compiled : Compiled}
    (hfirst : (c.chain locale).head? = some first) (h : c.get? key first = some compiled) :
    c.find? key locale = some compiled := by
  obtain ⟨others, hchain⟩ := List.head?_eq_some_iff.1 hfirst
  exact find?_eq_some_iff.2 ⟨[], first, others, hchain, List.forall_mem_nil _, h⟩

theorem contains_iff : c.contains key locale = true ↔ (c.find? key locale).isSome :=
  Iff.rfl

/-- Where missing texts fail, a look-up succeeds with what the search finds, and only with that. -/
theorem lookup_eq_ok_iff (hfail : c.missing = failFast) {r : Message} {compiled : Compiled} :
    c.lookup r locale = .ok compiled ↔ c.find? r.key locale = some compiled := by
  cases hfind : c.find? r.key locale with
  | some found =>
    rw [lookup_of_some hfind]
    exact ⟨fun h => congrArg some (Except.ok.inj h),
      fun h => congrArg Except.ok (Option.some.inj h)⟩
  | none =>
    rw [lookup_of_none hfind, hfail]
    exact ⟨nofun, nofun⟩

/-- A look-up that finds nothing reports the searched locales and the best of their keys. -/
theorem reported_of_none (hfail : c.missing = failFast) {r : Message}
    (hnone : c.find? r.key locale = none) :
    ∃ suggestions,
      c.lookup r locale = .error (.missingText r.key locale (c.chain locale) suggestions) ∧
      Suggested r.key (c.KnownIn (c.chain locale)) suggestions := by
  let missed : MissingText := ⟨r, locale, c.chain locale, c.store⟩
  have hknown : (· ∈ missed.knownKeys) = c.KnownIn (c.chain locale) :=
    funext fun _ => propext MissingText.mem_knownKeys_iff
  have hmissing : r.key ∉ missed.knownKeys := fun h =>
    find?_eq_none_iff.1 hnone (MissingText.mem_knownKeys_iff.1 h)
  refine ⟨suggest r.key missed.knownKeys, ?_, ?_⟩
  · rw [lookup_of_none hnone, hfail]
    rfl
  · rw [← hknown]
    exact suggested_suggest missed.nodup_knownKeys hmissing

/-- Where missing texts fail, a look-up succeeds exactly if the key is found along the chain, and
then with the message of the first locale that has it. Otherwise it reports the chain, and suggests
at most three keys of the searched locales, of which none that would have been better is left
out. -/
theorem found_or_reported (hfail : c.missing = failFast) (r : Message) (locale : String) :
    ((∃ compiled, c.lookup r locale = .ok compiled) ↔ (c.find? r.key locale).isSome) ∧
    ((c.find? r.key locale).isSome ↔ c.contains r.key locale = true) ∧
    (∀ compiled, c.lookup r locale = .ok compiled ↔
      c.Foremost r.key (c.chain locale) compiled) ∧
    (c.contains r.key locale = false → ∃ suggestions,
      c.lookup r locale = .error (.missingText r.key locale (c.chain locale) suggestions) ∧
      Suggested r.key (c.KnownIn (c.chain locale)) suggestions) := by
  refine ⟨?_, contains_iff.symm, fun compiled => ?_, fun hcontains => ?_⟩
  · simp only [lookup_eq_ok_iff hfail, Option.isSome_iff_exists]
  · rw [lookup_eq_ok_iff hfail, find?_eq_some_iff]
  · refine reported_of_none hfail (Option.not_isSome_iff_eq_none.1 fun hsome => ?_)
    rw [contains_iff.2 hsome] at hcontains
    cases hcontains

/-- A catalog that searches the locale `de` twice, with `en` in between. -/
def twofold : Catalog :=
  { store := Store.empty.insertAll "de"
        [("car", Compiled.ofText "Auto"), ("cart", Compiled.ofText "Karren")]
      |>.insertAll "en"
        [("card", Compiled.ofText "card"), ("cart", Compiled.ofText "cart"),
          ("cat", Compiled.ofText "cat"), ("care", Compiled.ofText "care")]
    fallback := fun locale => [locale, "en", locale]
    missing := failFast }

/-- The message of the first `de` counts for `cart`. Four keys are one edit away from `carx`, of
which the last by name is left out. -/
theorem lookups_in_twofold :
    twofold.lookup (Request.ofKey "cart") "de" = .ok (Compiled.ofText "Karren") ∧
    twofold.lookup (Request.ofKey "carx") "de" =
      .error (.missingText "carx" "de" ["de", "en", "de"] ["car", "card", "care"]) ∧
    Suggested "carx" (twofold.KnownIn ["de", "en", "de"]) ["car", "card", "care"] := by
  have hfound := found_or_reported (c := twofold) rfl (Request.ofKey "cart") "de"
  have hreported := found_or_reported (c := twofold) rfl (Request.ofKey "carx") "de"
  have hlookup : twofold.lookup (Request.ofKey "carx") "de" =
      .error (.missingText "carx" "de" ["de", "en", "de"] ["car", "card", "care"]) := by cbv
  obtain ⟨suggestions, herror, hsuggested⟩ := hreported.2.2.2 (by cbv)
  obtain rfl : ["car", "card", "care"] = suggestions := by
    injection hlookup.symm.trans herror with h
    injection h
  exact ⟨(hfound.2.2.1 _).2 ⟨[], "de", ["en", "de"], rfl, by simp, by cbv⟩, hlookup, hsuggested⟩

end Catalog

end Parlance

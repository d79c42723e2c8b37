import Parlance.Proofs.Catalog.Lookup
import Parlance.Proofs.Catalog.Writes
import Parlance.Proofs.Locale.Chain

/-!
# The built-in messages in a catalog

Once the built-in messages stand under the default locale, every truncating chain comes to them. The
other locales of a chain come first, but have no message of their own under the built-in keys,
unless something was written there.

Results:
1. `Provides.get?_eq`: where the built-in messages stand, whatever else is written and in whatever
   order (`Catalog.Provides`).
2. `lookup_of_default`: a message that stands under the default locale only is found in every
   locale.
3. `Provides.lookup_eq`: so are the built-in messages.
-/

namespace Parlance.Catalog

/-! ## Definitions -/

/-- The changes store the built-in messages under a locale, and nothing else under their keys. -/
structure Provides (locale : String) (changes : List Change) : Prop where
  stored : .registerBuiltins locale ∈ changes
  untouched : ∀ change ∈ changes, change ≠ .registerBuiltins locale →
    ∀ e ∈ change.writes, e.1.2 ∉ Dict.names builtinMessages

variable {default : String} {missing : MissingTextStrategy} {changes : List Change}
  {m : String × String}

/-! ## Where they stand -/

theorem eq_of_mem_builtinMessages {m' : String × String} (hm : m ∈ builtinMessages)
    (hm' : m' ∈ builtinMessages) (hkey : m.1 = m'.1) : m = m' :=
  List.inj_on_of_nodup_map (f := Prod.fst) (by decide) hm hm' hkey

/-- What is written under a built-in key is the built-in message. -/
theorem Provides.eq_of_mem_writes (h : Provides default changes) (hm : m ∈ builtinMessages)
    {e : Store.Entry} (he : e ∈ changes.flatMap Change.writes) (hkey : e.1.2 = m.1) :
    e = ((default, m.1), Compiled.ofText m.2) := by
  obtain ⟨change, hchange, he⟩ := List.mem_flatMap.1 he
  by_cases hbuiltins : change = .registerBuiltins default
  · subst hbuiltins
    obtain ⟨m', hm', rfl⟩ := List.mem_map.1 he
    rw [eq_of_mem_builtinMessages hm' hm hkey]
  · refine absurd ?_ (h.untouched change hchange hbuiltins e he)
    rw [hkey]
    exact List.mem_map_of_mem hm

/-- The built-in messages stand under their locale and under no other. -/
theorem Provides.get?_eq (h : Provides default changes) (hm : m ∈ builtinMessages)
    (fallback : FallbackStrategy) (missing : MissingTextStrategy) :
    ((new fallback missing).after changes).get? m.1 default = some (Compiled.ofText m.2) ∧
      ∀ l, l ≠ default → ((new fallback missing).after changes).get? m.1 l = none := by
  simp only [get?_after_new]
  refine ⟨Store.lastWrite?_eq_some_of_forall ?_ fun e he hplace => ?_, fun l hl => ?_⟩
  · exact List.mem_flatMap.2 ⟨_, h.stored, List.mem_map_of_mem hm⟩
  · rw [h.eq_of_mem_writes hm he (congrArg Prod.snd hplace)]
  · refine Store.lastWrite?_eq_none_iff.2 fun e he hplace => hl ?_
    rw [h.eq_of_mem_writes hm he (congrArg Prod.snd hplace)] at hplace
    exact (congrArg Prod.fst hplace).symm

/-! ## Where they are found -/

/-- A message that stands under the default locale only is found in every locale. -/
theorem lookup_of_default {c : Catalog} (hchain : c.fallback = Locale.truncatingChain default)
    {r : Message} {compiled : Compiled} (honly : c.get? r.key default = some compiled)
    (hothers : ∀ l, l ≠ default → c.get? r.key l = none) (locale : String) :
    c.lookup r locale = .ok compiled := by
  refine lookup_of_some (find?_of_only honly hothers ?_)
  rw [chain, hchain]
  exact Locale.mem_truncatingChain default locale

/-- The built-in messages are found in every locale. -/
theorem Provides.lookup_eq (h : Provides default changes) (hm : m ∈ builtinMessages)
    (locale : String) :
    ((new (Locale.truncatingChain default) missing).after changes).lookup (Request.ofKey m.1)
      locale = .ok (Compiled.ofText m.2) := by
  obtain ⟨honly, hothers⟩ := h.get?_eq hm (Locale.truncatingChain default) missing
  exact lookup_of_default (by rw [after_eq]; rfl) honly hothers locale

end Parlance.Catalog

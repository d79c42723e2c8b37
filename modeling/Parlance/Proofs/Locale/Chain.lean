import Mathlib.Data.List.TakeWhile
import Parlance.Locale.Fallback
import Parlance.Locale.Tag

/-!
# Truncating chains

A chain is made by cutting a tag at its last underscore, again and again. By the segments of the tag
it is the list of their joined prefixes. Segments may be empty, and underscores may stand at both
ends.

Results:
1. `broader?_eq_none_iff`, `broader?_eq_some_iff`: what one cut leaves of a tag.
2. `broadening_eq`: what all cuts leave, by induction on them.
3. `mem_truncatingChain`: the default locale is searched for every requested one.
4. `truncatingChain_by_segments`: a chain by the segments of its two locales.
-/

namespace Parlance.Locale

/-! ## Definitions -/

/-- The prefixes of some segments, each joined by underscores, the longest first. -/
def joinedPrefixes (segments : List (List Char)) : List (List Char) :=
  (List.range segments.length).reverse.map fun n => ['_'].intercalate (segments.take (n + 1))

/-! ## One cut -/

theorem broader?_append {last : List Char} (h : '_' ∉ last) (parent : List Char) :
    broader? (parent ++ '_' :: last) = some parent := by
  have hlast : ∀ c ∈ last.reverse, (c != '_') = true := by
    intro c hc
    have hne : c ≠ '_' := fun heq => h (heq ▸ List.mem_reverse.1 hc)
    simpa using hne
  have hcut : (parent ++ '_' :: last).reverse.dropWhile (· != '_') = '_' :: parent.reverse := by
    rw [List.reverse_append, List.reverse_cons, List.append_assoc,
      List.dropWhile_append_of_pos hlast]
    rfl
  rw [broader?, hcut]
  exact congrArg some (List.reverse_reverse parent)

theorem exists_eq_append_of_mem {tag : List Char} (h : '_' ∈ tag) :
    ∃ parent last, '_' ∉ last ∧ tag = parent ++ '_' :: last := by
  obtain ⟨last, parent, htag, hlast⟩ := List.eq_append_cons_of_mem (List.mem_reverse.2 h)
  refine ⟨parent.reverse, last.reverse, fun hmem => hlast (List.mem_reverse.1 hmem), ?_⟩
  rw [← List.reverse_reverse tag, htag]
  simp

theorem broader?_eq_none_iff {tag : List Char} : broader? tag = none ↔ '_' ∉ tag := by
  constructor
  · intro hnone hmem
    obtain ⟨parent, last, hlast, rfl⟩ := exists_eq_append_of_mem hmem
    cases hnone.symm.trans (broader?_append hlast parent)
  · intro hnot
    have hcut : tag.reverse.dropWhile (· != '_') = [] := by
      refine List.dropWhile_eq_nil_iff.2 fun c hc => ?_
      have hne : c ≠ '_' := fun heq => hnot (heq ▸ List.mem_reverse.1 hc)
      simpa using hne
    rw [broader?, hcut]

/-- A tag is cut at its last underscore. -/
theorem broader?_eq_some_iff {tag parent : List Char} :
    broader? tag = some parent ↔ ∃ last, '_' ∉ last ∧ tag = parent ++ '_' :: last := by
  constructor
  · intro hsome
    have hmem : '_' ∈ tag := by
      refine Decidable.byContradiction fun hnot => ?_
      cases hsome.symm.trans (broader?_eq_none_iff.2 hnot)
    obtain ⟨front, last, hlast, rfl⟩ := exists_eq_append_of_mem hmem
    obtain rfl := Option.some.inj (hsome.symm.trans (broader?_append hlast front))
    exact ⟨last, hlast, rfl⟩
  · rintro ⟨last, hlast, rfl⟩
    exact broader?_append hlast parent

/-! ## All cuts -/

theorem joinedPrefixes_concat (segments : List (List Char)) (last : List Char) :
    joinedPrefixes (segments ++ [last]) =
      ['_'].intercalate (segments ++ [last]) :: joinedPrefixes segments := by
  unfold joinedPrefixes
  rw [List.length_append, List.length_singleton, List.range_succ, List.reverse_append,
    List.reverse_singleton, List.singleton_append, List.map_cons,
    List.take_of_length_le (by simp)]
  refine congrArg (_ :: ·) (List.map_congr_left fun n hn => ?_)
  have hlt : n < segments.length := List.mem_range.1 (List.mem_reverse.1 hn)
  rw [List.take_append_of_le_length hlt]

theorem segments_append {last : List Char} (h : '_' ∉ last) (parent : List Char) :
    segments (parent ++ '_' :: last) = segments parent ++ [last] := by
  rw [segments, List.splitOn_append_cons_self, List.splitOn_eq_singleton h, segments]

/-- A tag and the broader ones are the joined prefixes of its segments. -/
theorem broadening_eq (tag : List Char) : broadening tag = joinedPrefixes (segments tag) := by
  fun_induction broadening tag with
  | case1 tag hnone =>
    rw [segments, List.splitOn_eq_singleton (broader?_eq_none_iff.1 hnone)]
    simp [joinedPrefixes]
  | case2 tag parent hsome _ ih =>
    obtain ⟨last, hlast, rfl⟩ := broader?_eq_some_iff.1 hsome
    have hjoined : ['_'].intercalate (segments (parent ++ '_' :: last)) = parent ++ '_' :: last :=
      List.intercalate_splitOn '_'
    rw [ih, segments_append hlast, joinedPrefixes_concat, ← segments_append hlast, hjoined]

theorem length_joinedPrefixes (segments : List (List Char)) :
    (joinedPrefixes segments).length = segments.length := by
  simp [joinedPrefixes]

theorem head?_broadening (tag : List Char) : (broadening tag).head? = some tag := by
  rw [broadening]
  split <;> rfl

/-- Cutting ends on every tag. -/
theorem wellFounded_broader? : WellFounded fun parent tag => broader? tag = some parent :=
  Subrelation.wf length_of_broader? (measure List.length).wf

theorem mem_broadening (tag : List Char) : tag ∈ broadening tag :=
  List.mem_of_mem_head? (head?_broadening tag)

/-! ## Chains -/

theorem mem_truncatingChain (default requested : String) :
    default ∈ truncatingChain default requested :=
  List.mem_map.2 ⟨default.toList, List.mem_append_right _ (mem_broadening default.toList),
    String.ofList_toList⟩

theorem head?_truncatingChain (default requested : String) :
    (truncatingChain default requested).head? = some requested := by
  rw [truncatingChain, List.head?_map, List.head?_append, head?_broadening, Option.some_or,
    Option.map_some, String.ofList_toList]

/-- Whatever the two locales are, let the requested one have `k` segments and the default one `m`.
The chain is the list of the joined prefixes of the `k` segments, the longest first, followed by
those of the `m` segments. So it has `k + m` entries, nothing is left out where locales repeat, it
begins with the requested locale, and the default locale is at place `k`. Cutting at the last
underscore, by which the chain is made, ends on every tag. -/
theorem truncatingChain_by_segments (default requested : String) :
    truncatingChain default requested =
        (joinedPrefixes (segments requested.toList) ++
          joinedPrefixes (segments default.toList)).map String.ofList ∧
      (truncatingChain default requested).length =
        (segments requested.toList).length + (segments default.toList).length ∧
      (truncatingChain default requested).head? = some requested ∧
      (truncatingChain default requested)[(segments requested.toList).length]? = some default ∧
      WellFounded fun parent tag => broader? tag = some parent := by
  have hchain : truncatingChain default requested =
      (joinedPrefixes (segments requested.toList) ++
        joinedPrefixes (segments default.toList)).map String.ofList := by
    rw [← broadening_eq, ← broadening_eq, truncatingChain]
  have hlength := length_joinedPrefixes (segments requested.toList)
  have hfirst : (joinedPrefixes (segments requested.toList)).head? = some requested.toList := by
    rw [← broadening_eq, head?_broadening]
  have hdefault : (joinedPrefixes (segments default.toList)).head? = some default.toList := by
    rw [← broadening_eq, head?_broadening]
  refine ⟨hchain, ?_, ?_, ?_, wellFounded_broader?⟩
  · rw [hchain, List.length_map, List.length_append, hlength, length_joinedPrefixes]
  · rw [hchain, List.head?_map, List.head?_append, hfirst]
    exact congrArg some String.ofList_toList
  · rw [hchain, List.getElem?_map, List.getElem?_append_right (Nat.le_of_eq hlength), hlength,
      Nat.sub_self, ← List.head?_eq_getElem?, hdefault]
    exact congrArg some String.ofList_toList

/-- Empty segments are cut off one by one. -/
example : truncatingChain "_en_" "de__CH" = ["de__CH", "de_", "de", "_en_", "_en", ""] := by
  cbv

end Parlance.Locale

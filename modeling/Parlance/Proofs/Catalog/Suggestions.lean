import Mathlib.Data.List.Sort
import Parlance.Catalog.Suggestions
import Parlance.Proofs.Text.Bytes
import Parlance.Proofs.Text.EditDistance

/-!
# Which keys are suggested

The candidates for a missing key are measured, those within reach are sorted, and the first three
are taken. None of these steps drops a better candidate: what is sorted behind a suggestion comes
after it in the order of distance and name, and what is out of reach is farther than everything
within.

How far the reach goes is decided by the length of the missing key. It is meant in characters, as
the distances are, but counted in bytes, so that a short key of characters outside ASCII has the
reach of a long one.

Results:
1. `mem_candidates_iff`, `pairwise_sortedCandidates`: what is sorted, and how.
2. `suggested_suggest`: what the suggestions for a key are among available keys without repetition
   (`Suggested`).
3. `rankedWithin_suggest`: the suggestions are the first three of all keys within reach.
4. `suggest_by_bytes`: for which keys this is the reach by characters.
-/

namespace Parlance

/-! ## Definitions -/

/-- One key is a better suggestion for a missing key than another: it is nearer, or as near and
before the other by name. -/
def Nearer (target key other : String) : Prop :=
  let distance := fun k : String => Text.editDistance target.toList k.toList
  distance key < distance other ∨ distance key = distance other ∧ key < other

/-- The suggestions for a missing key: at most three different keys, in order, with every key that
is better than one of them, and with every key that is one edit away if there are fewer than
three. -/
structure Suggested (target : String) (available : String → Prop) (suggestions : List String) :
    Prop where
  count : suggestions.length ≤ 3
  distinct : suggestions.Nodup
  chosen : ∀ key ∈ suggestions, available key ∧ key ≠ target
  ordered : suggestions.Pairwise (Nearer target)
  best : ∀ suggestion ∈ suggestions, ∀ key, available key → Nearer target key suggestion →
    key ∈ suggestions
  filled : suggestions.length < 3 → ∀ key, available key →
    Text.editDistance target.toList key.toList = 1 → key ∈ suggestions

/-- The first three of the available keys that are one edit away at least and `reach` edits at most,
in the order of distance and name. The same key may be available several times. -/
def RankedWithin (reach : Nat) (target : String) (available suggestions : List String) : Prop :=
  ∃ ranked : List String,
    ranked.Perm (available.filter fun key =>
      let distance := Text.editDistance target.toList key.toList
      1 ≤ distance ∧ distance ≤ reach) ∧
    ranked.Pairwise (fun a b => Nearer target a b ∨ a = b) ∧ suggestions = ranked.take 3

/-- The reach by characters: one edit for keys of up to three characters, two for longer ones. -/
def characterReach (target : String) : Nat :=
  if target.length ≤ 3 then 1 else 2

/-- The candidates in their order. -/
def sortedCandidates (target : String) (available : List String) : List (Nat × String) :=
  (candidates target available).mergeSort closer

/-! ## The order -/

theorem closer_iff {a b : Nat × String} :
    closer a b = true ↔ a.1 < b.1 ∨ a.1 = b.1 ∧ a.2 ≤ b.2 := by
  simp [closer]

theorem closer_trans (a b c : Nat × String) (hab : closer a b = true) (hbc : closer b c = true) :
    closer a c = true := by
  rw [closer_iff] at *
  rcases hab with hab | ⟨hab, hab'⟩
  · left
    omega
  · rcases hbc with hbc | ⟨hbc, hbc'⟩
    · left
      omega
    · exact Or.inr ⟨hab.trans hbc, String.le_trans hab' hbc'⟩

theorem closer_total (a b : Nat × String) : (closer a b || closer b a) = true := by
  rw [Bool.or_eq_true, closer_iff, closer_iff]
  rcases Nat.lt_trichotomy a.1 b.1 with h | h | h
  · exact Or.inl (Or.inl h)
  · rcases String.le_total a.2 b.2 with hle | hle
    · exact Or.inl (Or.inr ⟨h, hle⟩)
    · exact Or.inr (Or.inr ⟨h.symm, hle⟩)
  · exact Or.inr (Or.inl h)

/-! ## The candidates -/

section

variable {target : String} {available : List String}

theorem mem_candidates_iff {c : Nat × String} :
    c ∈ candidates target available ↔
      c.2 ∈ available ∧ c.1 = Text.editDistance target.toList c.2.toList ∧ c.2 ≠ target ∧
        c.1 ≤ suggestionReach target := by
  obtain ⟨distance, key⟩ := c
  have hzero : Text.editDistance target.toList key.toList = 0 ↔ key = target := by
    rw [Text.editDistance_eq_zero_iff, String.toList_inj, eq_comm]
  simp only [candidates, List.mem_filter, List.mem_map, Prod.mk.injEq, Bool.and_eq_true,
    decide_eq_true_eq]
  constructor
  · rintro ⟨⟨k, hk, rfl, rfl⟩, hpos, hreach⟩
    exact ⟨hk, rfl, fun heq => Nat.ne_of_gt hpos (hzero.2 heq), hreach⟩
  · rintro ⟨hkey, rfl, hne, hreach⟩
    exact ⟨⟨key, hkey, rfl, rfl⟩, Nat.pos_of_ne_zero fun h => hne (hzero.1 h), hreach⟩

theorem mem_sortedCandidates_iff {c : Nat × String} :
    c ∈ sortedCandidates target available ↔ c ∈ candidates target available :=
  (List.mergeSort_perm _ _).mem_iff

theorem pairwise_sortedCandidates (target : String) (available : List String) :
    (sortedCandidates target available).Pairwise fun a b => closer a b = true :=
  List.pairwise_mergeSort closer_trans closer_total _

theorem nodup_sortedCandidates (hnodup : available.Nodup) :
    ((sortedCandidates target available).map Prod.snd).Nodup := by
  have hsublist : ((candidates target available).map Prod.snd).Sublist available := by
    have h := (List.filter_sublist (l := available.map fun key =>
      (Text.editDistance target.toList key.toList, key)) (p := fun c =>
        decide (0 < c.1) && decide (c.1 ≤ suggestionReach target))).map Prod.snd
    rwa [List.map_map, show Prod.snd ∘ _ = (id : String → String) from rfl, List.map_id] at h
  exact (((List.mergeSort_perm _ _).map Prod.snd).nodup_iff).2 (hnodup.sublist hsublist)

/-! ## The suggestions -/

theorem suggest_eq (target : String) (available : List String) :
    suggest target available = ((sortedCandidates target available).take 3).map Prod.snd :=
  rfl

/-- A better key than one of the first candidates is among the first candidates. -/
theorem mem_take_of_nearer {n : Nat} {key : String} {c : Nat × String}
    (hc : c ∈ (sortedCandidates target available).take n) (hkey : key ∈ available)
    (hne : key ≠ target) (hnearer : Nearer target key c.2) :
    ∃ d ∈ (sortedCandidates target available).take n, d.2 = key := by
  obtain ⟨-, hdistance, -, hreach⟩ :=
    mem_candidates_iff.1 (mem_sortedCandidates_iff.1 (List.mem_of_mem_take hc))
  have hmem : (Text.editDistance target.toList key.toList, key) ∈
      sortedCandidates target available := by
    refine mem_sortedCandidates_iff.2 (mem_candidates_iff.2 ⟨hkey, rfl, hne, ?_⟩)
    rcases hnearer with hlt | ⟨heq, -⟩ <;> simp only at * <;> omega
  rw [← List.take_append_drop n (sortedCandidates target available), List.mem_append] at hmem
  rcases hmem with hmem | hmem
  · exact ⟨_, hmem, rfl⟩
  · -- What is left behind is not closer than what was taken.
    have hpairwise := pairwise_sortedCandidates target available
    rw [← List.take_append_drop n (sortedCandidates target available),
      List.pairwise_append] at hpairwise
    have hcloser := closer_iff.1 (hpairwise.2.2 c hc _ hmem)
    rw [hdistance] at hcloser
    rcases hnearer with hlt | ⟨heq, hlt⟩
    · simp only at *
      omega
    · rcases hcloser with hcloser | ⟨-, hle⟩
      · simp only at *
        omega
      · exact absurd hlt (String.not_lt.2 hle)

theorem pairwise_nearer (hnodup : available.Nodup) :
    ((sortedCandidates target available).map Prod.snd).Pairwise (Nearer target) := by
  refine List.pairwise_map.2 ?_
  have hdistinct : (sortedCandidates target available).Pairwise (·.2 ≠ ·.2) :=
    List.pairwise_map.1 (nodup_sortedCandidates hnodup)
  refine ((pairwise_sortedCandidates target available).and hdistinct).imp_of_mem ?_
  rintro a b ha hb ⟨hcloser, hne⟩
  obtain ⟨-, hdistancea, -⟩ := mem_candidates_iff.1 (mem_sortedCandidates_iff.1 ha)
  obtain ⟨-, hdistanceb, -⟩ := mem_candidates_iff.1 (mem_sortedCandidates_iff.1 hb)
  rw [closer_iff, hdistancea, hdistanceb] at hcloser
  exact hcloser.imp_right fun h => ⟨h.1, Std.lt_of_le_of_ne h.2 hne⟩

/-- The suggestions for a key that is not available are the best of the available ones. -/
theorem suggested_suggest (hnodup : available.Nodup) (hmissing : target ∉ available) :
    Suggested target (· ∈ available) (suggest target available) := by
  have hne : ∀ key ∈ available, key ≠ target := fun key hkey heq => hmissing (heq ▸ hkey)
  rw [suggest_eq]
  constructor
  case count =>
    rw [List.length_map]
    exact List.length_take_le 3 _
  case distinct =>
    rw [List.map_take]
    exact (nodup_sortedCandidates hnodup).sublist (List.take_sublist 3 _)
  case chosen =>
    intro key hkey
    obtain ⟨c, hc, rfl⟩ := List.mem_map.1 hkey
    obtain ⟨hmem, -, hother, -⟩ :=
      mem_candidates_iff.1 (mem_sortedCandidates_iff.1 (List.mem_of_mem_take hc))
    exact ⟨hmem, hother⟩
  case ordered =>
    rw [List.map_take]
    exact (pairwise_nearer hnodup).sublist (List.take_sublist 3 _)
  case best =>
    intro suggestion hsuggestion key hkey hnearer
    obtain ⟨c, hc, rfl⟩ := List.mem_map.1 hsuggestion
    obtain ⟨d, hd, rfl⟩ := mem_take_of_nearer hc hkey (hne key hkey) hnearer
    exact List.mem_map_of_mem hd
  case filled =>
    intro hfew key hkey hdistance
    rw [List.length_map, List.length_take] at hfew
    rw [List.take_of_length_le (by omega)]
    refine List.mem_map.2 ⟨(1, key), mem_sortedCandidates_iff.2 (mem_candidates_iff.2
      ⟨hkey, hdistance.symm, hne key hkey, ?_⟩), rfl⟩
    -- Every key allows one edit at least.
    show 1 ≤ suggestionReach target
    rw [suggestionReach]
    split <;> omega

/-! ## All suggestions at once -/

theorem names_candidates (target : String) (available : List String) :
    (candidates target available).map Prod.snd = available.filter fun key =>
      let distance := Text.editDistance target.toList key.toList
      1 ≤ distance ∧ distance ≤ suggestionReach target := by
  rw [candidates, List.filter_map, List.map_map,
    show Prod.snd ∘ _ = (id : String → String) from rfl, List.map_id]
  refine List.filter_congr fun key _ => ?_
  rw [Function.comp_apply, Bool.decide_and]
  rfl

theorem pairwise_nearer_or_eq (target : String) (available : List String) :
    ((sortedCandidates target available).map Prod.snd).Pairwise
      fun a b => Nearer target a b ∨ a = b := by
  refine List.pairwise_map.2 ((pairwise_sortedCandidates target available).imp_of_mem ?_)
  intro a b ha hb hcloser
  obtain ⟨-, hdistancea, -⟩ := mem_candidates_iff.1 (mem_sortedCandidates_iff.1 ha)
  obtain ⟨-, hdistanceb, -⟩ := mem_candidates_iff.1 (mem_sortedCandidates_iff.1 hb)
  rw [closer_iff, hdistancea, hdistanceb] at hcloser
  rcases hcloser with hlt | ⟨heq, hle⟩
  · exact Or.inl (Or.inl hlt)
  · rcases Std.le_iff_lt_or_eq.1 hle with hlt | hsame
    · exact Or.inl (Or.inr ⟨heq, hlt⟩)
    · exact Or.inr hsame

theorem rankedWithin_suggest (target : String) (available : List String) :
    RankedWithin (suggestionReach target) target available (suggest target available) := by
  refine ⟨(sortedCandidates target available).map Prod.snd, ?_,
    pairwise_nearer_or_eq target available, ?_⟩
  · rw [← names_candidates]
    exact (List.mergeSort_perm _ _).map Prod.snd
  · rw [suggest_eq, List.map_take]

/-! ## Characters and bytes -/

theorem suggestionReach_eq_characterReach (h : ¬(target.length ≤ 3 ∧ 3 < target.utf8ByteSize)) :
    suggestionReach target = characterReach target := by
  have hle := Text.length_le_utf8ByteSize target
  rw [suggestionReach, characterReach]
  split <;> split <;> omega

theorem editDistance_append_text (target more : String) :
    Text.editDistance target.toList (target ++ more).toList = more.length := by
  rw [String.toList_append, Text.editDistance_append, String.length_toList]

/-- A key with two more characters is suggested for one with the reach of two edits only. -/
theorem not_rankedWithin_one (target : String) {suggestions : List String}
    (h : RankedWithin 2 target [target ++ "aa"] suggestions) :
    ¬RankedWithin 1 target [target ++ "aa"] suggestions := by
  rintro ⟨near, hnear, -, hfew⟩
  obtain ⟨far, hfar, -, hmore⟩ := h
  rw [List.filter_singleton] at hnear hfar
  simp only [editDistance_append_text] at hnear hfar
  obtain rfl : near = [] := List.perm_nil.1 hnear
  obtain rfl : far = [target ++ "aa"] := List.perm_singleton.1 hfar
  rw [hfew] at hmore
  cases hmore

end

/-- Suggestions are ranked within the reach by characters, for whatever keys are available, exactly
if the missing key is not one of up to three characters but more than three bytes. For such a key
they are ranked within the reach of a long one. -/
theorem suggest_by_bytes (target : String) :
    ((∀ available, RankedWithin (characterReach target) target available
        (suggest target available)) ↔ ¬(target.length ≤ 3 ∧ 3 < target.utf8ByteSize)) ∧
    (target.length ≤ 3 ∧ 3 < target.utf8ByteSize →
      ∀ available, RankedWithin 2 target available (suggest target available)) := by
  have hlong (h : target.length ≤ 3 ∧ 3 < target.utf8ByteSize) (available : List String) :
      RankedWithin 2 target available (suggest target available) := by
    have hranked := rankedWithin_suggest target available
    rwa [suggestionReach, if_neg (Nat.not_le.2 h.2)] at hranked
  refine ⟨⟨fun hall h => ?_, fun h available => ?_⟩, hlong⟩
  · have hone := hall [target ++ "aa"]
    rw [characterReach, if_pos h.1] at hone
    exact not_rankedWithin_one target (hlong h _) hone
  · rw [← suggestionReach_eq_characterReach h]
    exact rankedWithin_suggest target available

/-- Two characters of three bytes each have the reach of a long key, whatever keys are available.
Four of one byte each have it as well, and are meant to. -/
theorem suggest_of_japanese :
    ("日本".length ≤ 3 ∧ 3 < "日本".utf8ByteSize) ∧
    (∀ available, RankedWithin 2 "日本" available (suggest "日本" available)) ∧
    ¬("helo".length ≤ 3 ∧ 3 < "helo".utf8ByteSize) ∧
    (∀ available, RankedWithin (characterReach "helo") "helo" available
      (suggest "helo" available)) := by
  have hshort : "日本".length ≤ 3 ∧ 3 < "日本".utf8ByteSize := by decide +kernel
  have hlong : ¬("helo".length ≤ 3 ∧ 3 < "helo".utf8ByteSize) := by decide +kernel
  exact ⟨hshort, (suggest_by_bytes "日本").2 hshort, hlong, (suggest_by_bytes "helo").1.2 hlong⟩

/-- A key that is two edits away is suggested for one of two characters. -/
theorem two_edits_from_two_characters :
    "日本".length = 2 ∧ Text.editDistance "日本".toList "日本語文".toList = 2 ∧
    suggest "日本" ["日本語文"] = ["日本語文"] ∧
    ¬RankedWithin (characterReach "日本") "日本" ["日本語文"] (suggest "日本" ["日本語文"]) := by
  have hsuggest : suggest "日本" ["日本語文"] = ["日本語文"] := by decide +kernel
  refine ⟨by decide +kernel, by decide +kernel, hsuggest, ?_⟩
  rintro ⟨ranked, hranked, -, hfirst⟩
  have hnone : ranked = [] := List.perm_nil.1 (hranked.trans (by decide +kernel))
  rw [hsuggest, hnone] at hfirst
  cases hfirst

end Parlance

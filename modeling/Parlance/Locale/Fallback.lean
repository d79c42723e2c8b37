/-!
# Fallback chains

The locales that are searched for a message, in order. By default a locale is followed by the ones
it narrows down, and these by the default locale and the ones that it narrows down; a locale that
occurs twice is searched twice.
-/

namespace Parlance.Locale

/-- What precedes the last underscore of a tag, if it has one. -/
def broader? (tag : List Char) : Option (List Char) :=
  match tag.reverse.dropWhile (· != '_') with
  | [] => none
  | _ :: rest => some rest.reverse

theorem length_of_broader? {tag parent : List Char} (h : broader? tag = some parent) :
    parent.length < tag.length := by
  have hle : (tag.reverse.dropWhile (· != '_')).length ≤ tag.reverse.length :=
    (List.dropWhile_sublist _).length_le
  unfold broader? at h
  split at h
  · simp at h
  · next u rest hd =>
    obtain rfl := Option.some.inj h
    rw [hd] at hle
    simp only [List.length_cons, List.length_reverse] at hle ⊢
    omega

/-- A tag and the ever broader ones it narrows down. -/
def broadening (tag : List Char) : List (List Char) :=
  match h : broader? tag with
  | none => [tag]
  | some parent =>
    have := length_of_broader? h
    tag :: broadening parent
termination_by tag.length

/-- The chain of a requested locale over a default locale. -/
def truncatingChain (default requested : String) : List String :=
  (broadening requested.toList ++ broadening default.toList).map String.ofList

end Parlance.Locale

import Hygiene.Proofs.Path.Ancestors
import Hygiene.Walk.Exclusion

/-!
# What patterns exclude

A path is compared with patterns in its normal spelling and, when it lies below the directory from
which the work is done, in what it is relative to that directory. A pattern excludes the path when
it matches one of these spellings or a directory above one of them, and there is one more way: a
pattern that matches the empty text excludes every path that has a relative spelling
(`isExcluded_iff`). For the parents of a relative path end in the empty path, although that is no
directory above it.

So the empty pattern, which names nothing, excludes a file in the working directory
(`emptyPattern_excludes`).
-/

set_option autoImplicit false

namespace Hygiene.Walk

open Glob (Pattern)
open Hygiene.Path (IsAbove)

/-- A spelling of a path that is compared with patterns. -/
inductive Compared (base path : Path) : Path → Prop where
  /-- The path in its normal spelling. -/
  | whole : Compared base path path.normalize
  /-- What the path is relative to the base, when it lies below it. -/
  | below {left : Path} (found : Path.below? base path = some left) :
      Compared base path left.normalize

theorem mem_spellings_iff {base path spelled : Path} :
    spelled ∈ spellings base path ↔ Compared base path spelled := by
  rw [spellings, List.mem_cons, List.mem_singleton]
  constructor
  · rintro (rfl | rfl)
    · exact .whole
    · cases found : Path.below? base path with
      | none => exact .whole
      | some left => exact .below found
  · rintro (_ | found)
    · exact .inl rfl
    · rw [found]
      exact .inr rfl

/-- A spelling is normal. -/
theorem Compared.exists_normalize {base path spelled : Path}
    (compared : Compared base path spelled) : ∃ normal : Path, spelled = normal.normalize := by
  cases compared with
  | whole => exact ⟨path, rfl⟩
  | below => exact ⟨_, rfl⟩

/-- A path is excluded when its normal spelling is. -/
theorem isExcluded_normalize (patterns : List Pattern) {base : Path}
    (absolute : base.isAbsolute = true) (path : Path) :
    isExcluded patterns base path.normalize = isExcluded patterns base path := by
  have same : spellings base path.normalize = spellings base path := by
    rw [spellings, spellings, Path.normalize_normalize]
    congr 2
    cases outright : path.isAbsolute with
    | true =>
      rw [Path.below_normalize absolute outright]
      cases Path.below? base path with
      | none => exact Path.normalize_normalize path
      | some left => rfl
    | false =>
      have relative := (Path.isAbsolute_normalize path).trans outright
      rw [Path.getD_below_of_relative absolute outright,
        Path.getD_below_of_relative absolute relative, Path.normalize_normalize]
  rw [isExcluded, isExcluded, same]

/-- The empty pattern matches the empty text only. -/
theorem eq_nil_of_emptyPattern_accepts {text : Text} (accepted : Pattern.accepts [] text = true) :
    text = [] := by
  cases text with
  | nil => rfl
  | cons c rest =>
    have bytes : (Glob.encode (c :: rest)).isEmpty = true := by
      simpa [Pattern.accepts, Glob.restsOfAll] using accepted
    rw [Glob.encode, List.flatMap_cons, List.isEmpty_iff, List.append_eq_nil_iff] at bytes
    have size := String.length_utf8EncodeChar c
    have filled := c.utf8Size_pos
    rw [bytes.1, List.length_nil] at size
    omega

/-- **What patterns exclude.** One of them matches a spelling of the path or a directory above it,
or it matches the empty text and the spelling is relative. -/
theorem isExcluded_iff (patterns : List Pattern) (base path : Path) :
    isExcluded patterns base path = true ↔
      ∃ spelled, Compared base path spelled ∧ ∃ pattern ∈ patterns,
        Pattern.accepts pattern spelled.spelling = true ∨
          (∃ directory, IsAbove directory spelled ∧
            Pattern.accepts pattern directory.spelling = true) ∨
          spelled.isAbsolute = false ∧ Pattern.accepts pattern [] = true := by
  simp only [isExcluded, List.any_eq_true, mem_spellings_iff]
  refine exists_congr fun spelled => and_congr_right fun compared => ?_
  obtain ⟨normal, rfl⟩ := compared.exists_normalize
  simp only [Path.mem_ancestors_normalize, Path.isAbsolute_normalize]
  constructor
  · rintro ⟨above, rfl | higher | ⟨relative, rfl⟩, pattern, member, accepted⟩
    · exact ⟨pattern, member, .inl accepted⟩
    · exact ⟨pattern, member, .inr (.inl ⟨above, higher, accepted⟩)⟩
    · exact ⟨pattern, member, .inr (.inr ⟨relative, accepted⟩)⟩
  · rintro ⟨pattern, member, accepted | ⟨directory, higher, accepted⟩ | ⟨relative, accepted⟩⟩
    · exact ⟨_, .inl rfl, pattern, member, accepted⟩
    · exact ⟨directory, .inr (.inl higher), pattern, member, accepted⟩
    · exact ⟨⟨[]⟩, .inr (.inr ⟨relative, rfl⟩), pattern, member, accepted⟩

/-- The empty pattern excludes a file in the working directory, although it matches neither a
spelling of the file nor a directory above one. -/
theorem emptyPattern_excludes :
    readPatterns [[]] = .ok [[]] ∧
      isExcluded [[]] (Path.ofString "/w") (Path.ofString "a.py") = true ∧
      ¬ ∃ spelled, Compared (Path.ofString "/w") (Path.ofString "a.py") spelled ∧
        ∃ pattern ∈ [([] : Pattern)], Pattern.accepts pattern spelled.spelling = true ∨
          ∃ directory, IsAbove directory spelled ∧
            Pattern.accepts pattern directory.spelling = true := by
  refine ⟨rfl, by decide, ?_⟩
  rintro ⟨spelled, compared, pattern, member, matched⟩
  obtain rfl := List.mem_singleton.mp member
  rcases matched with whole | ⟨directory, above, accepted⟩
  · cases compared with
    | whole => exact absurd whole (by decide)
    | below found =>
      have outside : Path.below? (Path.ofString "/w") (Path.ofString "a.py") = none := by decide
      rw [outside] at found
      cases found
  · exact above.spelling_ne_nil (eq_nil_of_emptyPattern_accepts accepted)

end Hygiene.Walk

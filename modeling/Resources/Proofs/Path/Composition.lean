import Resources.Proofs.Path.Relative

/-! Relative paths one after the other. Cleaning in between changes nothing, so they can be composed
first. -/
namespace Resources.Path

variable {p q r : List Char}

/-- What a relative path is read as before it is cleaned. -/
def composed (p q : List Char) : List Char :=
  if (unify q).head? = some '/' then unify q else directory (unify p) ++ unify q

theorem composed_of_rooted (hq : (unify q).head? = some '/') : composed p q = unify q := if_pos hq

theorem composed_of_relative (hq : (unify q).head? ≠ some '/') :
    composed p q = directory (unify p) ++ unify q := if_neg hq

theorem relativeText_eq (hq : q ≠ []) : relativeText p q = some (cleanText (composed p q)) := by
  rw [relativeText, if_neg hq, composed]
  split <;> rfl

theorem unify_composed : unify (composed p q) = composed p q := by
  unfold composed
  split
  · exact unify_unify
  · exact unify_relative unify_unify

theorem colon_not_mem_composed (hp : ':' ∉ p) (hq : ':' ∉ q) : ':' ∉ composed p q := by
  unfold composed
  split
  · exact colon_not_mem_unify hq
  · exact colon_not_mem_relative (colon_not_mem_unify hp) hq

/-- The last segment is that of the relative path. -/
theorem getLast?_segments_composed :
    (segments (composed p q)).getLast? = (segments (unify q)).getLast? := by
  unfold composed
  split
  · rfl
  · rw [segments_directory_append, List.getLast?_append_of_ne_nil _ segments_ne_nil]

theorem directory_directory_append :
    directory (directory p ++ q) = directory p ++ directory q := by
  apply directory_append
  rcases last_mark_cases '/' p with h | ⟨above, last, rfl, h⟩
  · rw [directory_of_no_slash h, directory_eq_self (Or.inl rfl)]
  · rw [directory_append_slash h, directory_eq_self (Or.inr List.getLast?_concat)]

/-- A path is read from the directory of the one before it, wherever that is read from. -/
theorem composed_composed (hr : (unify r).head? ≠ some '/') :
    composed (composed p q) r = composed p (directory (unify q) ++ unify r) := by
  have hu : unify (directory (unify q) ++ unify r) = directory (unify q) ++ unify r :=
    unify_relative unify_unify
  rw [composed_of_relative hr, unify_composed]
  by_cases hq : (unify q).head? = some '/'
  · have hqr : (unify (directory (unify q) ++ unify r)).head? = some '/' := by
      rwa [hu, head?_directory_append hr]
    rw [composed_of_rooted hq, composed_of_rooted hqr, hu]
  · have hqr : (unify (directory (unify q) ++ unify r)).head? ≠ some '/' := by
      rwa [hu, Ne, head?_directory_append hr]
    rw [composed_of_relative hq, composed_of_relative hqr, hu, directory_directory_append,
      List.append_assoc]

theorem composed_congr (h : unify q = unify r) : composed p q = composed p r := by
  unfold composed
  rw [h]

/-- One relative path after another is both at once: the directory of the first, and then the second.
The last segment of the first must not be a dot or two. Cleaning would fold it before what is behind
the last slash is cut off. -/
theorem relative_relative {b r₁ r₂ : String} (hb : ':' ∉ b.toList) (h₁ : ':' ∉ r₁.toList)
    (h₂ : ':' ∉ r₂.toList) (hne₁ : r₁ ≠ "") (hne₂ : r₂ ≠ "")
    (hs : ∀ c ∈ r₂.toList.head?, c ≠ '/' ∧ c ≠ '\\')
    (hl : ∀ s ∈ (segments (unify r₁.toList)).getLast?, s ≠ here ∧ s ≠ up) :
    ∃ x y, relative b r₁ = some x ∧ relative x r₂ = some y ∧
      relative b (.ofList (directory (unify r₁.toList)) ++ r₂) = some y := by
  rw [Ne, ← String.toList_eq_nil_iff] at hne₁ hne₂
  have hcolon := colon_not_mem_composed hb h₁
  have hx : relative b r₁ = some (.ofList (cleanText (composed b.toList r₁.toList))) := by
    rw [relative, relativeText_eq hne₁, Option.map_some]
  -- The first path may be left as it is composed, since its last segment is cut off as it stands.
  have hread : relativeText (cleanText (composed b.toList r₁.toList)) r₂.toList =
      some (cleanText (composed (composed b.toList r₁.toList) r₂.toList)) := by
    rw [relativeText_clean hcolon h₂, relativeText_eq hne₂]
    rwa [unify_composed, getLast?_segments_composed]
  refine ⟨_, _, hx, by rw [relative, String.toList_ofList, hread, Option.map_some], ?_⟩
  rw [relative, String.toList_append, String.toList_ofList, relativeText_eq (by simp [hne₂]),
    composed_composed (head?_unify_ne hs), Option.map_some,
    composed_congr (r := directory (unify r₁.toList) ++ unify r₂.toList)]
  rw [unify_append, unify_append, unify_unify]

/-- The first path climbs through the base, and folds to a climb. -/
theorem relative_relative_climbing : ':' ∉ "..\\c/../../d/".toList ∧
    ∃ x y, relative "a/b" "..\\c/../../d/" = some x ∧ relative x "./e\\..\\" = some y ∧
      relative "a/b" (.ofList (directory (unify "..\\c/../../d/".toList)) ++ "./e\\..\\") = some y := by
  have hb : ':' ∉ "a/b".toList := by decide
  have h₁ : ':' ∉ "..\\c/../../d/".toList := by decide
  have h₂ : ':' ∉ "./e\\..\\".toList := by decide
  refine ⟨h₁, relative_relative hb h₁ h₂ (by decide) (by decide) (by simp) ?_⟩
  simp [unify, segments]
  decide

end Resources.Path

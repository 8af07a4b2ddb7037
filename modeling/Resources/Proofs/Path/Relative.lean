import Mathlib.Data.List.Basic
import Resources.Proofs.Path.Canonical
import Resources.Proofs.Text.Marks

/-! Relative paths. What they are read from is the directory of their base, and cleaning the base
first does not change where they lead. -/
namespace Resources.Path

variable {p q t : List Char} {s : Segment} {place : List Segment}

/-! ### Directories -/

theorem directory_of_no_slash (h : '/' ∉ p) : directory p = [] := dropWhile_of_no_mark h

theorem directory_append_slash (h : '/' ∉ q) : directory (p ++ '/' :: q) = p ++ ['/'] :=
  dropWhile_of_last_mark h

theorem segments_of_no_slash (h : '/' ∉ p) : segments p = [p] := splitOn_of_not_mem h

/-- The directory has all the segments but the last. -/
theorem segments_directory_append :
    segments (directory p ++ q) = (segments p).dropLast ++ segments q := by
  rcases last_mark_cases '/' p with h | ⟨above, last, rfl, h⟩
  · rw [directory_of_no_slash h, segments_of_no_slash h]
    rfl
  · rw [directory_append_slash h, List.append_assoc, List.singleton_append, segments_append_slash,
      segments_append_slash, segments_of_no_slash h, List.dropLast_concat]

theorem directory_sublist (p : List Char) : (directory p).Sublist p := by
  have hs := (List.dropWhile_sublist (· ≠ '/') (l := p.reverse)).reverse
  rwa [List.reverse_reverse] at hs

/-- A relative path does not move the root. -/
theorem head?_directory_append (hq : q.head? ≠ some '/') :
    (directory p ++ q).head? = some '/' ↔ p.head? = some '/' := by
  rcases last_mark_cases '/' p with h | ⟨above, last, rfl, h⟩
  · have hp : p.head? ≠ some '/' := fun hp => h (List.mem_of_head? hp)
    simpa [directory_of_no_slash h, hp] using hq
  · rw [directory_append_slash h]
    cases above <;> simp

/-- The last segment is empty in the empty path and behind a trailing slash. -/
theorem getLast?_segments_eq_nil :
    (segments p).getLast? = some [] ↔ p = [] ∨ p.getLast? = some '/' := by
  rcases last_mark_cases '/' p with h | ⟨above, last, rfl, h⟩
  · have hp : p.getLast? ≠ some '/' := fun hp => h (List.mem_of_getLast? hp)
    simp [segments_of_no_slash h, hp]
  · have hl : last.getLast? ≠ some '/' := fun hl => h (List.mem_of_getLast? hl)
    rw [segments_append_slash, segments_of_no_slash h, List.getLast?_concat]
    cases last with
    | nil => simp
    | cons c last => simpa [List.getLast?_append] using hl

/-! ### Bases -/

/-- Cleaning cuts a path to its directory as it is, when the segment that is cut is a name. -/
theorem foldl_step_dropLast_clean (hc : ':' ∉ p)
    (hl : ∀ s ∈ (segments (unify p)).getLast?, s ≠ here ∧ s ≠ up)
    (hr : rooted p = true → place = []) :
    ((segments (cleanText p)).dropLast).foldl step place =
      ((segments (unify p)).dropLast).foldl step place := by
  have hrest := rest_of_no_colon hc
  obtain ⟨init, last, hs⟩ : ∃ init last, segments (unify p) = init ++ [last] :=
    ⟨_, _, (List.dropLast_concat_getLast segments_ne_nil).symm⟩
  have hlast := hl last (by simp [hs])
  have hgap := getLast?_segments_eq_nil (p := unify p)
  rw [hs, List.getLast?_concat, Option.some_inj] at hgap
  have hn : names p = (push (rooted p) (init.foldl (push (rooted p)) []) last).reverse := by
    rw [names_eq, hrest, hs, List.foldl_append]
    rfl
  rw [cleanText_of_no_colon hc, segments_plain, hs, List.dropLast_concat]
  -- What is cut off the cleaned path is the empty segment behind its names, or its last name.
  by_cases he : last = []
  · have hg : gap p = [[]] := by
      rcases gap_cases p with ⟨-, hg⟩ | ⟨⟨ht, hne⟩, -⟩
      · exact hg
      · rcases hgap.1 he with hu | hu
        · exact absurd (by simp [names_eq, hrest, hu, push]) hne
        · rw [← hrest, ← trailing_iff hne, ht] at hu
          exact absurd hu Bool.false_ne_true
    rw [hg, List.dropLast_concat, List.foldl_append, foldl_step_lead, foldl_names hr, hrest, hs, he]
    simp
  · rw [push_ordinary ⟨he, hlast⟩, List.reverse_cons] at hn
    have hg : gap p = [] := by
      rcases gap_cases p with ⟨ht | hne, -⟩ | ⟨-, hg⟩
      · exact absurd (hgap.2 (Or.inr (hrest ▸ getLast?_of_trailing ht))) he
      · simp [hn] at hne
      · exact hg
    rw [hg, List.append_nil, hn, ← List.append_assoc, List.dropLast_concat, List.foldl_append,
      foldl_step_lead, replay_foldl folded_nil hr]
    rfl

theorem colon_not_mem_cleanText (h : ':' ∉ p) : ':' ∉ cleanText p := fun hc =>
  colon_not_mem_unify h ((cleanText_sublist p).subset hc)

theorem unify_cleanText : unify (cleanText p) = cleanText p :=
  unify_eq_self backslash_not_mem_cleanText

theorem head?_cleanText (h : ':' ∉ p) :
    (cleanText p).head? = some '/' ↔ (unify p).head? = some '/' := by
  rw [cleanText_of_no_colon h, rooted_plain, rooted_eq, rest_of_no_colon h, beq_iff_eq]

theorem walk_directory_append (hq : q.head? ≠ some '/') : walk place (directory p ++ q) =
    (segments q).foldl step ((segments p).dropLast.foldl step
      (if p.head? = some '/' then [] else place)) := by
  rw [walk, segments_directory_append, List.foldl_append]
  simp only [head?_directory_append hq]

theorem colon_not_mem_relative (hp : ':' ∉ p) (hq : ':' ∉ q) : ':' ∉ directory p ++ unify q := by
  rw [List.mem_append, not_or]
  exact ⟨fun hc => hp ((directory_sublist p).subset hc), colon_not_mem_unify hq⟩

theorem unify_relative (hp : unify p = p) :
    unify (directory p ++ unify q) = directory p ++ unify q := by
  refine unify_eq_self ?_
  rw [List.mem_append, not_or]
  refine ⟨fun hc => ?_, backslash_not_mem_unify⟩
  have hc := (directory_sublist p).subset hc
  rw [← hp] at hc
  exact backslash_not_mem_unify hc

/-- What is read from a cleaned base is what is read from the base. -/
theorem relativeText_clean (hp : ':' ∉ p) (hq : ':' ∉ q)
    (hl : ∀ s ∈ (segments (unify p)).getLast?, s ≠ here ∧ s ≠ up) :
    relativeText (cleanText p) q = relativeText p q := by
  unfold relativeText
  by_cases hne : q = []
  · simp [hne]
  by_cases hr : (unify q).head? = some '/'
  · simp [hne, hr]
  simp only [hne, hr, if_false, unify_cleanText, Option.some_inj]
  have hc := colon_not_mem_relative (colon_not_mem_cleanText hp) hq
  have hc' := colon_not_mem_relative (colon_not_mem_unify hp) hq
  rw [cleanText_eq_iff (by rw [drive_of_no_colon hc, drive_of_no_colon hc']),
    rest_of_no_colon hc, rest_of_no_colon hc', unify_relative unify_cleanText,
    unify_relative unify_unify]
  refine ⟨?_, fun place => ?_, Or.inl ?_⟩
  · rw [head?_directory_append hr, head?_directory_append hr, head?_cleanText hp]
  · rw [walk_directory_append hr, walk_directory_append hr]
    simp only [head?_cleanText hp]
    rw [foldl_step_dropLast_clean hp hl]
    intro hrooted
    rw [rooted_eq, rest_of_no_colon hp, beq_iff_eq] at hrooted
    rw [if_pos hrooted]
  · have hu : unify q ≠ [] := by simpa [unify] using hne
    rw [List.getLast?_append_of_ne_nil _ hu, List.getLast?_append_of_ne_nil _ hu]

/-! ### Joins -/

theorem rest_cleanText (h : ':' ∉ p) : rest (cleanText p) = plain p := by
  rw [rest_of_no_colon (colon_not_mem_cleanText h), unify_cleanText, cleanText_of_no_colon h]

theorem rooted_cleanText (h : ':' ∉ p) : rooted (cleanText p) = rooted p := by
  rw [Bool.eq_iff_iff, ← rooted_plain (p := p), rooted_eq, rest_cleanText h, beq_iff_eq]

theorem names_cleanText (h : ':' ∉ p) : names (cleanText p) = names p := by
  refine names_eq_of_walk (rooted_cleanText h) fun place => ?_
  rw [rest_cleanText h, walk_plain]

/-- A path is joined to one that ends where a directory does. -/
theorem directory_append (hp : directory p = p) : directory (p ++ q) = p ++ directory q := by
  rcases last_mark_cases '/' q with h | ⟨above, last, rfl, h⟩
  · rw [directory_of_no_slash h, List.append_nil]
    rcases last_mark_cases '/' p with hn | ⟨above, last, rfl, hn⟩
    · obtain rfl : p = [] := by rw [← hp, directory_of_no_slash hn]
      exact directory_of_no_slash h
    · rw [directory_append_slash hn, List.append_cancel_left_eq] at hp
      obtain rfl : last = [] := by simpa using hp.symm
      simpa using directory_append_slash h
  · rw [directory_append_slash h, ← List.append_assoc, directory_append_slash h, List.append_assoc]

theorem directory_eq_self (h : p = [] ∨ p.getLast? = some '/') : directory p = p := by
  rcases h with rfl | h
  · rfl
  · obtain ⟨above, rfl⟩ := List.getLast?_eq_some_iff.1 h
    exact directory_append_slash List.not_mem_nil

/-- What another path is joined to: the path with a slash at its end, or nothing. -/
def asDirectory (p : List Char) : List Char :=
  if p = [] ∨ p.getLast? = some '/' then p else p ++ ['/']

theorem directory_unify_asDirectory :
    directory (unify (asDirectory p)) = unify (asDirectory p) := by
  apply directory_eq_self
  unfold asDirectory
  split
  · rename_i h
    refine h.imp (fun h => by simp [h]) fun h => ?_
    obtain ⟨above, rfl⟩ := List.getLast?_eq_some_iff.1 h
    simp [unify]
  · simp [unify]

theorem colon_not_mem_asDirectory (h : ':' ∉ p) : ':' ∉ asDirectory p := by
  unfold asDirectory
  split <;> simp [h]

/-- Cleaning a relative path before it is joined keeps the root and the names. -/
theorem names_append_cleanText (hp : directory (unify p) = unify p) (hpc : ':' ∉ p)
    (hqc : ':' ∉ q) (hq : (unify q).head? ≠ some '/') :
    rooted (p ++ cleanText q) = rooted (p ++ q) ∧ names (p ++ cleanText q) = names (p ++ q) := by
  have hclean := head?_cleanText hqc
  have hrest : rest (p ++ q) = directory (unify p) ++ unify q := by
    rw [rest_of_no_colon (by simp [hpc, hqc]), unify_append, hp]
  have hrest' : rest (p ++ cleanText q) = directory (unify p) ++ cleanText q := by
    rw [rest_of_no_colon (by simp [hpc, colon_not_mem_cleanText hqc]), unify_append,
      unify_cleanText, hp]
  have hr : rooted (p ++ cleanText q) = rooted (p ++ q) := by
    rw [Bool.eq_iff_iff, rooted_eq, rooted_eq, hrest, hrest', beq_iff_eq, beq_iff_eq,
      head?_directory_append (hclean.not.2 hq), head?_directory_append hq]
  refine ⟨hr, names_eq_of_walk hr fun place => ?_⟩
  rw [hrest, hrest', walk_directory_append (hclean.not.2 hq), walk_directory_append hq]
  have hunrooted : rooted q = false := by
    rw [Bool.eq_false_iff, Ne, rooted_eq, rest_of_no_colon hqc, beq_iff_eq]
    exact hq
  rw [cleanText_of_no_colon hqc, foldl_step_segments_plain, foldl_names (by simp [hunrooted]),
    rest_of_no_colon hqc]

end Resources.Path

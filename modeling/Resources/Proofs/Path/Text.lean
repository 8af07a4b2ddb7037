import Mathlib.Tactic.Common
import Resources.Path.Lexical

/-! The parts of a path text: its separators, its drive and its segments. -/
namespace Resources.Path

variable {p q : List Char} {s : Segment} {ss : List Segment} {c : Char}

/-! ### Separators -/

@[simp] theorem unify_nil : unify [] = [] := rfl

@[simp] theorem unify_append : unify (p ++ q) = unify p ++ unify q := by simp [unify]

@[simp] theorem backslash_not_mem_unify : '\\' ∉ unify p := by
  simp only [unify, List.mem_map, not_exists, not_and]
  intro c _ h
  split at h
  · exact absurd h (by decide)
  · contradiction

theorem unify_eq_self (h : '\\' ∉ p) : unify p = p := by
  refine (List.map_congr_left fun c hc => ?_).trans p.map_id
  have hn : c ≠ '\\' := by rintro rfl; exact h hc
  simp [hn]

theorem mem_unify (hc : c ∈ unify p) : c ∈ p ∨ c = '/' ∧ '\\' ∈ p := by
  simp only [unify, List.mem_map] at hc
  obtain ⟨d, hd, rfl⟩ := hc
  split
  · rename_i he
    exact Or.inr ⟨rfl, he ▸ hd⟩
  · exact Or.inl hd

theorem head?_unify : (unify p).head? = some '/' ↔ p.head? = some '/' ∨ p.head? = some '\\' := by
  cases p with
  | nil => simp
  | cons c p =>
    simp only [unify, List.map_cons, List.head?_cons, Option.some_inj]
    split <;> simp [*]

theorem head?_unify_ne (h : ∀ c ∈ p.head?, c ≠ '/' ∧ c ≠ '\\') : (unify p).head? ≠ some '/' := by
  rw [Ne, head?_unify]
  rintro (hc | hc)
  · exact (h _ hc).1 rfl
  · exact (h _ hc).2 rfl

theorem unify_unify : unify (unify p) = unify p := unify_eq_self backslash_not_mem_unify

theorem colon_not_mem_unify (h : ':' ∉ p) : ':' ∉ unify p := by
  intro hc
  rcases mem_unify hc with hc | ⟨hc, -⟩
  · exact h hc
  · exact absurd hc (by decide)

/-! ### Drives -/

/-- The drive in front of a path. -/
def drive (p : List Char) : List Char := (splitDrive (unify p)).1

/-- The path behind its drive. -/
def rest (p : List Char) : List Char := (splitDrive (unify p)).2

theorem splitDrive_cases (p : List Char) : splitDrive p = ([], p) ∨
    ∃ c r, c.isAlpha ∧ p = c :: ':' :: r ∧ splitDrive p = ([c, ':'], r) := by
  unfold splitDrive
  split
  · rename_i c r
    split
    · exact Or.inr ⟨c, r, ‹_›, rfl, rfl⟩
    · exact Or.inl rfl
  · exact Or.inl rfl

theorem drive_append_rest : drive p ++ rest p = unify p := by
  unfold drive rest
  rcases splitDrive_cases (unify p) with h | ⟨c, r, -, hp, h⟩
  · simp [h]
  · rw [h]
    exact hp.symm

theorem splitDrive_of_no_colon (h : ':' ∉ p) : splitDrive p = ([], p) := by
  rcases splitDrive_cases p with hs | ⟨c, r, -, rfl, -⟩
  · exact hs
  · simp at h

theorem drive_cases (p : List Char) : drive p = [] ∨ ∃ c, c.isAlpha ∧ drive p = [c, ':'] := by
  rcases splitDrive_cases (unify p) with h | ⟨c, r, hc, -, h⟩
  · exact Or.inl (by simp [drive, h])
  · exact Or.inr ⟨c, hc, by simp [drive, h]⟩

theorem drive_of_no_colon (h : ':' ∉ p) : drive p = [] := by
  simp [drive, splitDrive_of_no_colon (colon_not_mem_unify h)]

/-- A slash is no drive. -/
theorem drive_of_slash (h : p.head? = some '/') : drive p = [] := by
  obtain ⟨r, rfl⟩ := List.head?_eq_some_iff.1 h
  rcases drive_cases ('/' :: r) with hd | ⟨c, hc, hd⟩
  · exact hd
  · have hu := drive_append_rest (p := '/' :: r)
    rw [hd] at hu
    obtain rfl : c = '/' := (List.cons.inj hu).1
    exact absurd hc (by decide)

theorem rest_of_no_colon (h : ':' ∉ p) : rest p = unify p := by
  simp [rest, splitDrive_of_no_colon (colon_not_mem_unify h)]

theorem backslash_not_mem_rest : '\\' ∉ rest p := by
  intro h
  exact backslash_not_mem_unify (drive_append_rest (p := p) ▸ List.mem_append_right _ h)

/-! ### Segments -/

section SplitOn

variable {α : Type} [DecidableEq α] {a b : α} {xs ys : List α}

theorem not_mem_of_mem_splitOn (h : ys ∈ xs.splitOn a) : a ∉ ys := by
  induction xs generalizing ys with
  | nil => simp_all
  | cons x xs ih =>
    have hne : xs.splitOn a ≠ [] := by simp
    obtain ⟨t, ts, ht⟩ := List.exists_cons_of_ne_nil hne
    rw [List.splitOn_cons_eq_if_modifyHead, ht] at h
    rw [ht] at ih
    split at h
    · rcases List.mem_cons.1 h with rfl | h
      · simp
      · exact ih h
    · rename_i hx
      rcases List.mem_cons.1 h with rfl | h
      · rw [List.mem_cons, not_or]
        exact ⟨fun ha => hx (by simp [ha]), ih List.mem_cons_self⟩
      · exact ih (List.mem_cons_of_mem _ h)

theorem mem_iff_mem_splitOn (hb : b ≠ a) : b ∈ xs ↔ ∃ ys ∈ xs.splitOn a, b ∈ ys := by
  induction xs with
  | nil => simp
  | cons x xs ih =>
    have hne : xs.splitOn a ≠ [] := by simp
    obtain ⟨t, ts, ht⟩ := List.exists_cons_of_ne_nil hne
    rw [List.splitOn_cons_eq_if_modifyHead, List.mem_cons, ih, ht]
    split
    · rename_i hx
      have hx : x = a := by simpa using hx
      simp [hx, hb]
    · simp [or_assoc]

theorem splitOn_of_not_mem (h : a ∉ xs) : xs.splitOn a = [xs] := by
  have hs : (List.intercalate [a] [xs]).splitOn a = [xs] :=
    List.splitOn_intercalate a (by simpa using h) (by simp)
  rwa [List.intercalate_singleton] at hs

end SplitOn

@[simp] theorem segments_nil : segments [] = [[]] := rfl

theorem segments_ne_nil : segments p ≠ [] := by simp [segments]

theorem segments_cons : segments (c :: p) =
    if c = '/' then [] :: segments p else (segments p).modifyHead (c :: ·) := by
  simp [segments, List.splitOn_cons_eq_if_modifyHead]

theorem intercalate_segments : List.intercalate ['/'] (segments p) = p := by simp [segments]

theorem slash_not_mem_segment (h : s ∈ segments p) : '/' ∉ s := not_mem_of_mem_splitOn h

theorem segments_append_slash : segments (p ++ '/' :: q) = segments p ++ segments q := by
  simp [segments, List.splitOn_append_cons_self]

theorem segments_intercalate (h : ∀ s ∈ ss, '/' ∉ s) (hn : ss ≠ []) :
    segments (List.intercalate ['/'] ss) = ss :=
  List.splitOn_intercalate '/' h hn

theorem segments_slash_cons : segments ('/' :: p) = [] :: segments p := by simp [segments_cons]

theorem segments_append_end : segments (p ++ ['/']) = segments p ++ [[]] := by
  simpa using segments_append_slash (p := p) (q := [])

theorem ne_slash_of_alpha (hc : c.isAlpha) : c ≠ '/' := by
  rintro rfl
  exact absurd hc (by decide)

/-- A drive is part of the first segment. -/
theorem segments_drive {c : Char} (hc : c.isAlpha) :
    segments (c :: ':' :: p) = (segments p).modifyHead (c :: ':' :: ·) := by
  obtain ⟨t, ts, ht⟩ := List.exists_cons_of_ne_nil (segments_ne_nil (p := p))
  simp [segments_cons, ne_slash_of_alpha hc, ht]

/-- The characters of a path are those of its segments and the slashes between them. -/
theorem mem_iff_mem_segment (hc : c ≠ '/') : c ∈ p ↔ ∃ s ∈ segments p, c ∈ s :=
  mem_iff_mem_splitOn hc

theorem head?_eq_slash_iff : p.head? = some '/' ↔ ∃ ss, segments p = [] :: ss ∧ ss ≠ [] := by
  cases p with
  | nil => simp [segments]
  | cons c p =>
    rw [segments_cons]
    obtain ⟨s, ss, hs⟩ := List.exists_cons_of_ne_nil (segments_ne_nil (p := p))
    by_cases hc : c = '/'
    · simp [hc, hs]
    · simp [hc, hs]

/-- An empty segment that is neither the first nor the last stands between two slashes. -/
theorem slashes_of_gap (h : [] ∈ (segments p).tail.dropLast) : ['/', '/'] <:+: p := by
  induction p with
  | nil => simp at h
  | cons c p ih =>
    obtain ⟨first, after, hs⟩ := List.exists_cons_of_ne_nil (segments_ne_nil (p := p))
    rw [segments_cons, hs] at h
    rw [hs, List.tail_cons] at ih
    by_cases hc : c = '/'
    · rw [if_pos hc, List.tail_cons] at h
      cases after with
      | nil => simp at h
      | cons next after =>
        rw [List.dropLast_cons_cons] at h
        rcases List.mem_cons.1 h with rfl | h
        · obtain ⟨r, rfl⟩ := List.head?_eq_some_iff.1 (head?_eq_slash_iff.2 ⟨_, hs, by simp⟩)
          exact ⟨[], r, by simp [hc]⟩
        · exact (ih h).trans (List.suffix_cons c p).isInfix
    · rw [if_neg hc, List.modifyHead_cons, List.tail_cons] at h
      exact (ih h).trans (List.suffix_cons c p).isInfix

/-- Without two slashes side by side, only the last segment of a path that is not rooted can be empty. -/
theorem nil_not_mem_dropLast (hr : p.head? ≠ some '/') (hs : ¬ ['/', '/'] <:+: p) :
    [] ∉ (segments p).dropLast := by
  intro h
  obtain ⟨first, after, hsegments⟩ := List.exists_cons_of_ne_nil (segments_ne_nil (p := p))
  cases after with
  | nil => simp [hsegments] at h
  | cons next after =>
    rw [hsegments, List.dropLast_cons_cons] at h
    rcases List.mem_cons.1 h with rfl | h
    · exact hr (head?_eq_slash_iff.2 ⟨_, hsegments, by simp⟩)
    · exact hs (slashes_of_gap (by rwa [hsegments]))

end Resources.Path

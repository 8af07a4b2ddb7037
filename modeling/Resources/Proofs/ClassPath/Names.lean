import Resources.ClassPath
import Resources.Proofs.Path.Canonical

/-! Names on a class path, segment by segment. A name that does not climb out has no climbs, or has
them all behind a drive. -/
namespace Resources

open Resources.Path

variable {s : Segment} {n : String}

theorem toList_plainName (n : String) : (plainName n).toList =
    if drive n.toList = [] ∧ rooted n.toList then (plain n.toList).tail
    else cleanText n.toList := by
  unfold plainName
  simp only
  split
  · rename_i r h
    rw [toList_clean, cleanText_eq] at h
    rcases drive_cases n.toList with hd | ⟨c, hc, hd⟩
    · rw [hd, List.nil_append] at h
      have hr : rooted n.toList = true := rooted_plain.1 (by simp [h])
      simp [hd, hr, h]
    · rw [hd] at h
      exact absurd (List.cons.inj h).1 (ne_slash_of_alpha hc)
  · rename_i h
    rw [toList_clean] at h ⊢
    rw [if_neg]
    rintro ⟨hd, hr⟩
    obtain ⟨r, hp⟩ := List.head?_eq_some_iff.1 (rooted_plain.2 hr)
    exact h r (by rw [cleanText_eq, hd, hp]; rfl)

theorem segments_tail_plain {p : List Char} (h : rooted p = true) :
    segments (plain p).tail = names p ++ gap p := by
  obtain ⟨r, hr⟩ := List.head?_eq_some_iff.1 (rooted_plain.2 h)
  have hs := segments_plain (p := p)
  rw [hr, segments_slash_cons, lead_of_rooted h] at hs
  simpa [hr] using hs

/-- A name whose first segment climbs climbs out. -/
theorem climbsOut_of_segments {ss : List Segment} (h : segments n.toList = up :: ss) :
    climbsOut n = true := by
  have hn : n.toList = List.intercalate ['/'] (up :: ss) := by rw [← h, intercalate_segments]
  cases ss with
  | nil =>
    have : n = ".." := by
      rw [← String.toList_inj, hn]
      rfl
    simp [climbsOut, this]
  | cons s ss =>
    have : ['.', '.', '/'] <+: n.toList := by
      rw [hn, List.intercalate_cons_cons]
      exact ⟨_, by simp [up]; rfl⟩
    simp [climbsOut, this]

/-- What stands behind the names of a cleaned path is empty. -/
theorem ordinary_or_nil {ss : List Segment} {p : List Char} (h : ∀ s ∈ ss, Ordinary s) :
    ∀ s ∈ ss ++ gap p, s = [] ∨ Ordinary s := by
  intro s hs
  rcases List.mem_append.1 hs with hs | hs
  · exact Or.inr (h s hs)
  · exact Or.inl (eq_nil_of_mem_gap hs)

/-- Without a drive, the segments of a name are the names it is cleaned to. -/
theorem segments_plainName_of_no_drive (hd : drive n.toList = []) :
    segments (plainName n).toList = names n.toList ++ gap n.toList := by
  have ht := toList_plainName n
  cases hr : rooted n.toList with
  | true => rw [ht, if_pos ⟨hd, hr⟩, segments_tail_plain hr]
  | false => simp [ht, hr, cleanText_eq, hd, segments_plain, lead_of_relative hr]

/-- The segments of a name that does not climb out: one to begin with, climbs that are there only
behind a drive that is left at once, and names. -/
theorem segments_plainName (h : climbsOut (plainName n) = false) : ∃ first climbs ss,
    segments (plainName n).toList = first :: (List.replicate climbs up ++ ss) ∧
      (∀ s ∈ ss, s = [] ∨ Ordinary s) ∧ (first = [] ∧ climbs = 0 ∧ ss = [] ∨ Ordinary first) ∧
      (climbs ≠ 0 → ∃ c : Char, c.isAlpha ∧ first = [c, ':', '.', '.']) := by
  obtain ⟨k, ns, hn, ho, hk⟩ := names_shape n.toList
  have ht := toList_plainName n
  rcases drive_cases n.toList with hd | ⟨c, hc, hd⟩
  · have hs := segments_plainName_of_no_drive hd
    cases k with
    | succ k =>
      rw [hn] at hs
      exact absurd h (by simp [climbsOut_of_segments hs])
    | zero =>
      rw [List.replicate_zero, List.nil_append] at hn
      rw [hs, hn]
      cases ns with
      | nil => exact ⟨[], 0, [], by simp [gap, hn], by simp, Or.inl ⟨rfl, rfl, rfl⟩, by simp⟩
      | cons m ms =>
        exact ⟨m, 0, _, rfl, ordinary_or_nil fun s hs => ho s (by simp [hs]),
          Or.inr (ho m (by simp)), by simp⟩
  · have hs : segments (plainName n).toList =
        (segments (plain n.toList)).modifyHead (c :: ':' :: ·) := by
      rw [ht, if_neg (by simp [hd]), cleanText_eq, hd]
      exact segments_drive hc
    rw [hs, segments_plain, hn]
    cases hr : rooted n.toList with
    | true =>
      obtain rfl := hk hr
      rw [lead_of_rooted hr]
      exact ⟨[c, ':'], 0, _, rfl, ordinary_or_nil ho, Or.inr ordinary_drive, by simp⟩
    | false =>
      rw [lead_of_relative hr]
      cases k with
      | succ k =>
        exact ⟨c :: ':' :: up, k, ns ++ gap n.toList, by simp [List.replicate_succ],
          ordinary_or_nil ho, Or.inr ordinary_drive, fun _ => ⟨c, hc, rfl⟩⟩
      | zero =>
        cases ns with
        | nil => exact ⟨[c, ':'], 0, [], by simp [gap, hn], by simp, Or.inr ordinary_drive, by simp⟩
        | cons m ms =>
          exact ⟨c :: ':' :: m, 0, _, rfl, ordinary_or_nil fun s hs => ho s (by simp [hs]),
            Or.inr ordinary_drive, by simp⟩

theorem name_not_rooted (h : climbsOut (plainName n) = false) :
    (plainName n).toList.head? ≠ some '/' := by
  obtain ⟨first, k, ss, hs, -, hf, -⟩ := segments_plainName h
  intro hr
  obtain ⟨r, hr⟩ := List.head?_eq_some_iff.1 hr
  rw [hr, segments_slash_cons] at hs
  obtain ⟨rfl, hs⟩ := List.cons.inj hs
  rcases hf with ⟨-, rfl, rfl⟩ | hf
  · exact segments_ne_nil (by simpa using hs)
  · exact hf.1 rfl

end Resources

import Resources.Proofs.Path.Canonical
import Resources.Proofs.Path.Climbs

/-! Paths behind a drive. The segment that a drive begins is a name like any other where paths are
walked, but cleaning takes it apart. -/
namespace Resources.Path

variable {p q : List Char} {s first : Segment} {after tail ss place : List Segment} {a : Char}

/-- Cleaning leaves the segment that a drive begins: there is a climb behind the drive, or there is
no `.`, and no later climb goes back over it. -/
def KeepsDrive (p : List Char) : Prop :=
  drive p = [] ∨ (segments (rest p)).head? = some up ∨
    (segments (rest p)).head? ≠ some here ∧ ¬ Overclimbs (segments (rest p)).tail

instance : DecidablePred KeepsDrive := fun _ => inferInstanceAs (Decidable (_ ∨ _ ∨ _ ∧ _))

theorem keepsDrive_iff (hd : drive p = [a, ':']) (hs : segments (rest p) = first :: after) :
    KeepsDrive p ↔ first = up ∨ first ≠ here ∧ ¬ Overclimbs after := by
  simp [KeepsDrive, hd, hs]

theorem segments_head_eq_nil (hs : segments p = first :: after) (hp : p ≠ []) :
    first = [] ↔ p.head? = some '/' := by
  obtain ⟨c, p, rfl⟩ := List.exists_cons_of_ne_nil hp
  obtain ⟨t, ts, ht⟩ := List.exists_cons_of_ne_nil (segments_ne_nil (p := p))
  rw [segments_cons, ht] at hs
  split at hs
  · simp [*, (List.cons.inj hs).1.symm]
  · have : first = c :: t := (List.cons.inj hs).1.symm
    simp [*]

/-- Behind the root or the first segment stands what the other segments fold to. -/
theorem lead_append_names (hs : segments (rest p) = first :: after) (hr : rest p ≠ [])
    (hk : first = up ∨ first ≠ here ∧ ¬ Overclimbs after) :
    lead p ++ names p = first :: (after.foldl (push false) []).reverse := by
  have hnil := segments_head_eq_nil hs hr
  rw [names_eq, hs, List.foldl_cons]
  rw [overclimbs_iff] at hk
  cases hc : rooted p with
  | true =>
    obtain rfl := hnil.2 (by simpa [rooted_eq] using hc)
    have hk : up ∉ after.foldl (push false) [] := (hk.resolve_left up_ne_nil.symm).2
    have hf : after.foldl (push true) ([] ++ []) = after.foldl (push false) [] ++ [] :=
      foldl_push_append folded_nil (Or.inr hk)
    simp only [List.append_nil] at hf
    rw [lead_of_rooted hc, push_idle (Or.inl rfl), hf]
    rfl
  | false =>
    have hne : first ≠ [] := by
      rw [Ne, hnil]
      simpa [rooted_eq] using hc
    have hpush : push false [] first = [] ++ [first] := by
      rcases segment_cases first with (h | h) | rfl | h
      · exact absurd h hne
      · rcases hk with rfl | hk
        · exact absurd h up_ne_here
        · exact absurd h hk.1
      · rfl
      · exact push_ordinary h
    rw [lead_of_relative hc, hpush,
      foldl_push_append folded_nil (hk.imp (fun h => ⟨rfl, by rw [h]⟩) And.right)]
    simp

theorem alpha_of_drive (hd : drive p = [a, ':']) : a.isAlpha := by
  rcases drive_cases p with h | ⟨c, hc, h⟩
  · simp [hd] at h
  · obtain rfl : a = c := by simpa [hd] using h
    exact hc

theorem segments_unify_drive (hd : drive p = [a, ':']) (hs : segments (rest p) = first :: after) :
    segments (unify p) = (a :: ':' :: first) :: after := by
  rw [← drive_append_rest, hd]
  exact (segments_drive (alpha_of_drive hd)).trans (by simp [hs])

theorem segments_plain_drive (hs : segments (rest p) = first :: after) (hr : rest p ≠ [])
    (hk : first = up ∨ first ≠ here ∧ ¬ Overclimbs after) :
    segments (plain p) = first :: ((after.foldl (push false) []).reverse ++ gap p) := by
  rw [segments_plain, lead_append_names hs hr hk]
  rfl

/-- A drive that is kept begins the same segment in the cleaned path, and the others are folded. -/
theorem segments_cleanText_drive (hd : drive p = [a, ':'])
    (hs : segments (rest p) = first :: after) (hr : rest p ≠ []) (hk : KeepsDrive p) :
    segments (cleanText p) =
      (a :: ':' :: first) :: ((after.foldl (push false) []).reverse ++ gap p) := by
  rw [cleanText_eq, hd]
  refine (segments_drive (p := plain p) (alpha_of_drive hd)).trans ?_
  rw [segments_plain_drive hs hr ((keepsDrive_iff hd hs).1 hk)]
  rfl

/-! ### Walks behind a drive -/

theorem foldl_step_append_gap : (ss ++ gap p).foldl step place = ss.foldl step place := by
  rw [List.foldl_append, foldl_step_gap]

theorem walk_drive (ha : a.isAlpha) (hq : segments q = s :: tail) :
    walk place (a :: ':' :: q) = tail.foldl step ((a :: ':' :: s) :: place) := by
  rw [walk, segments_drive ha, hq, List.modifyHead_cons, List.foldl_cons,
    step_ordinary ordinary_drive]
  simp [ne_slash_of_alpha ha]

theorem walk_of_keepsDrive (hk : KeepsDrive p) :
    walk place (cleanText p) = walk place (unify p) := by
  rw [cleanText_eq, ← drive_append_rest]
  rcases drive_cases p with hd | ⟨a, ha, hd⟩
  · rw [hd, List.nil_append, List.nil_append, walk_plain]
  rw [hd]
  by_cases hr : rest p = []
  · have hplain : plain p = [] := by simpa [hr] using plain_sublist (p := p)
    rw [hr, hplain]
  obtain ⟨first, after, hs⟩ := List.exists_cons_of_ne_nil (segments_ne_nil (p := rest p))
  have hplain := segments_plain_drive hs hr ((keepsDrive_iff hd hs).1 hk)
  have hf : Folded false [] := folded_nil
  calc walk place (a :: ':' :: plain p)
    _ = (after.foldl (push false) []).reverse.foldl step ((a :: ':' :: first) :: place) :=
      (walk_drive ha hplain).trans foldl_step_append_gap
    _ = after.foldl step ((a :: ':' :: first) :: place) :=
      replay_foldl hf (by simp)
    _ = walk place (a :: ':' :: rest p) := (walk_drive ha hs).symm

/-- A drive before the root is a name on its own. -/
theorem walk_drive_plain_rooted (ha : a.isAlpha) (hr : rooted p = true) :
    walk place (a :: ':' :: plain p) = (names p).reverse ++ [a, ':'] :: place := by
  obtain ⟨j, ms, hn, hms, hj⟩ := names_shape p
  obtain rfl := hj hr
  have hs := segments_plain (p := p)
  rw [lead_of_rooted hr, List.append_assoc, List.singleton_append] at hs
  rw [walk_drive ha hs, foldl_step_append_gap, hn]
  exact foldl_step_ordinary hms

/-- A drive swallows the first name behind it, or the first climb. The walk is then not that of the
names, nor that of the names from the segment that the drive began. -/
theorem walk_drive_plain_ne (ha : a.isAlpha) (hr : rooted p = false) {j : Nat} {ms : List Segment}
    (hn : names p = List.replicate j up ++ ms) (hm : ∀ s ∈ ms, Ordinary s) (hf : first ≠ []) :
    (∃ place, walk place (a :: ':' :: plain p) ≠ ms.reverse ++ place.drop j) ∧
    ∃ place, walk place (a :: ':' :: plain p) ≠
      ms.reverse ++ ((a :: ':' :: first) :: place).drop j := by
  have hs := segments_plain (p := p)
  rw [lead_of_relative hr, hn] at hs
  cases j with
  | zero =>
    cases ms with
    | nil =>
      have hs : segments (plain p) = [[]] := by simpa [gap, hn] using hs
      have hw : walk [] (a :: ':' :: plain p) = [[a, ':']] := walk_drive ha hs
      refine ⟨⟨[], ?_⟩, [], ?_⟩
      · simp [hw]
      · simpa [hw] using hf.symm
    | cons m ms =>
      have hw : walk [] (a :: ':' :: plain p) = ms.reverse ++ [a :: ':' :: m] := by
        have hms : ∀ s ∈ ms, Ordinary s := fun s h => hm s (List.mem_cons_of_mem m h)
        rw [walk_drive ha hs]
        exact foldl_step_append_gap.trans (foldl_step_ordinary hms)
      refine ⟨⟨[], fun h => ?_⟩, [], ?_⟩
      · have hl := congrArg List.length (show a :: ':' :: m = m by simpa [hw] using h)
        simp at hl
        omega
      · simp [hw]
  | succ j =>
    have hw (place) : walk place (a :: ':' :: plain p) =
        ms.reverse ++ ((a :: ':' :: up) :: place).drop j := by
      rw [walk_drive ha hs]
      exact foldl_step_append_gap.trans (foldl_replicate_up_append hm)
    refine ⟨⟨List.replicate (j + 1) [], fun h => ?_⟩, List.replicate (j + 1) [], fun h => ?_⟩
    · have hl := congrArg List.length (hw _ ▸ h)
      simp at hl
      omega
    · have hl := congrArg List.length (hw _ ▸ h)
      simp at hl
      omega

theorem keepsDrive_of_walk (h : ∀ place, walk place (cleanText p) = walk place (unify p)) :
    KeepsDrive p := by
  rcases drive_cases p with hd | ⟨a, ha, hd⟩
  · exact Or.inl hd
  obtain ⟨first, after, hs⟩ := List.exists_cons_of_ne_nil (segments_ne_nil (p := rest p))
  obtain ⟨k, ns, hns, hk, hafter⟩ := foldl_step_eq after
  rw [keepsDrive_iff hd hs, hk]
  by_contra hkeep
  rw [not_or, not_and, not_not] at hkeep
  obtain ⟨hup, hkeep⟩ := hkeep
  have hunify (place) :
      walk place (unify p) = ns.reverse ++ ((a :: ':' :: first) :: place).drop k := by
    rw [← drive_append_rest, hd]
    exact (walk_drive ha hs).trans (hafter _)
  have hclean : cleanText p = a :: ':' :: plain p := by simp [cleanText_eq, hd]
  simp only [hunify, hclean] at h
  obtain ⟨j, ms, hn, hms, hj⟩ := names_shape p
  cases hr : rooted p with
  | true =>
    obtain ⟨y, hy⟩ := List.head?_eq_some_iff.1 (by simpa [rooted_eq] using hr)
    obtain ⟨rfl, rfl⟩ : [] = first ∧ segments y = after := by
      rw [hy, segments_slash_cons] at hs
      exact List.cons.inj hs
    obtain rfl := hj hr
    have hmn : (names p).reverse = ns.reverse := by
      have hw : (names p).foldl step [] = (segments (rest p)).foldl step [] :=
        foldl_names (by simp)
      rw [hs, List.foldl_cons, hafter, hn, List.replicate_zero, List.nil_append,
        foldl_step_ordinary hms] at hw
      simpa [hn] using hw
    -- The climb over the drive cannot be made up for: the root does not let it through.
    have hne : k ≠ 0 := hkeep here_ne_nil.symm
    have hl := congrArg List.length (h [])
    rw [walk_drive_plain_rooted ha hr, hmn] at hl
    simp at hl
    omega
  | false =>
    have hwalk (place) : (List.replicate j up ++ ms).foldl step place =
        ns.reverse ++ (step place first).drop k := by
      rw [← hn, foldl_names (by simp [hr]), hs, List.foldl_cons, hafter]
    rcases segment_cases first with (rfl | rfl) | rfl | ho
    · have hrest : rest p = [] := by
        by_contra hne
        have hh := (segments_head_eq_nil hs hne).1 rfl
        simp [rooted_eq, hh] at hr
      obtain rfl : [] = after := by simpa [hrest] using hs
      have ho : ¬ Overclimbs [] := by decide
      exact ho (hk.2 (hkeep here_ne_nil.symm))
    · obtain ⟨rfl, rfl⟩ := eq_of_walks hms hns fun place => by
        rw [hwalk, step_here, foldl_replicate_up_append hns]
      obtain ⟨-, place, hne⟩ := walk_drive_plain_ne ha hr hn hms here_ne_nil
      exact hne (h place)
    · exact hup rfl
    · obtain ⟨k, rfl⟩ := Nat.exists_eq_succ_of_ne_zero (hkeep ho.2.1)
      obtain ⟨rfl, rfl⟩ := eq_of_walks hms hns fun place => by
        rw [hwalk, step_ordinary ho, foldl_replicate_up_append hns]
        rfl
      obtain ⟨⟨place, hne⟩, -⟩ := walk_drive_plain_ne ha hr hn hms ho.1
      exact hne (h place)

/-- Cleaning keeps where a path leads from every place just if it keeps its drive. -/
theorem keepsDrive_iff_walk :
    KeepsDrive p ↔ ∀ place, walk place (cleanText p) = walk place (unify p) :=
  ⟨fun h _ => walk_of_keepsDrive h, keepsDrive_of_walk⟩

end Resources.Path

import Resources.Proofs.Path.Climbs
import Resources.Proofs.Path.Relative

/-! Paths that climb no more than they have gone down. Their names are those of the walk from the
root, and so are those of all rooted paths. -/
namespace Resources.Path

variable {p : List Char} {s : Segment} {ns init : List Segment} {last : Segment}

theorem up_mem_names_iff : up ∈ names p ↔ rooted p = false ∧ Overclimbs (segments (rest p)) := by
  cases hr : rooted p with
  | true => simp [up_not_mem_names hr]
  | false => rw [names_eq, hr, List.mem_reverse, overclimbs_iff]; simp

theorem head?_names_append_gap : (names p ++ gap p).head? = some up ↔ up ∈ names p := by
  obtain ⟨k, ns, hn, ho, -⟩ := names_shape p
  cases k with
  | succ k => simp [hn, List.replicate_succ]
  | zero =>
    have hno : up ∉ names p := by
      rw [hn, List.replicate_zero, List.nil_append]
      exact fun hup => (ho up hup).2.2 rfl
    refine iff_of_false (fun hhead => ?_) hno
    rcases List.mem_append.1 (List.mem_of_mem_head? hhead) with hup | hup
    · exact hno hup
    · exact up_ne_nil (eq_nil_of_mem_gap hup)

/-- Without a climb, the names are what the walk from the root leads over. -/
theorem names_of_no_climb (h : up ∉ names p) : names p = (walk [] (rest p)).reverse := by
  have ho : ∀ s ∈ names p, Ordinary s := by
    intro s hs
    obtain ⟨hnil, hhere⟩ := names_ne hs
    refine ⟨hnil, hhere, ?_⟩
    rintro rfl
    exact h hs
  rw [walk_rest, foldl_step_ordinary ho]
  simp

theorem ordinary_of_mem_walk (h : s ∈ walk [] p) : Ordinary s := by
  obtain ⟨k, ns, ho, -, hwalk⟩ := foldl_step_eq (segments p)
  have hns : walk [] p = ns.reverse := by simp [walk, hwalk]
  exact ho s (List.mem_reverse.1 (hns ▸ h))

theorem gap_of_end : gap p = if names p = [] ∨ (rest p).getLast? = some '/' then [[]] else [] := by
  rcases gap_cases p with ⟨hend, hg⟩ | ⟨⟨ht, hne⟩, hg⟩
  · rw [hg, if_pos (hend.symm.imp_right getLast?_of_trailing)]
  · rw [hg, if_neg]
    rw [not_or, ← trailing_iff hne, ht]
    exact ⟨hne, Bool.false_ne_true⟩

/-- A rooted path that does not end in dots is cleaned up to its last segment, which stays. -/
theorem segments_cleanText_of_last (hc : ':' ∉ p) (hr : (unify p).head? = some '/')
    (hs : segments (unify p) = init ++ [last]) (hl : last ≠ here ∧ last ≠ up) :
    segments (cleanText p) = [] :: ((init.foldl step []).reverse ++ [last]) := by
  have hrest := rest_of_no_colon hc
  have hrooted : rooted p = true := by rw [rooted_eq, hrest, hr, beq_self_eq_true]
  have hnames := names_of_no_climb (up_not_mem_names hrooted)
  rw [hrest, walk, hs, if_pos hr, List.foldl_append, List.foldl_cons, List.foldl_nil] at hnames
  have hend := getLast?_segments_eq_nil (p := unify p)
  rw [hs, List.getLast?_concat, Option.some_inj] at hend
  rw [cleanText_of_no_colon hc, segments_plain, lead_of_rooted hrooted, gap_of_end, hrest]
  by_cases hnil : last = []
  · have hslash : (unify p).getLast? = some '/' := by
      refine (hend.1 hnil).resolve_left fun hempty => ?_
      simp [hempty] at hr
    rw [if_pos (Or.inr hslash), hnames, hnil, step_nil]
    simp
  · rw [step_ordinary ⟨hnil, hl⟩, List.reverse_cons] at hnames
    have hopen : ¬ (names p = [] ∨ (unify p).getLast? = some '/') := by
      rintro (h | h)
      · simp [hnames] at h
      · exact hnil (hend.2 (Or.inr h))
    rw [if_neg hopen, hnames]
    simp

/-- Behind names, a rooted path goes on from the place that they lead to. -/
theorem segments_cleanText_behind (hc : ':' ∉ p) (hu : unify p = p)
    (hs : segments p = [] :: (ns ++ init ++ [last])) (hn : ∀ s ∈ ns, Ordinary s)
    (hl : last ≠ here ∧ last ≠ up) :
    segments (cleanText p) = [] :: ((init.foldl step ns.reverse).reverse ++ [last]) := by
  have hroot : (unify p).head? = some '/' := by
    rw [hu, head?_eq_slash_iff]
    exact ⟨_, hs, by simp⟩
  have hs' : segments (unify p) = ([] :: (ns ++ init)) ++ [last] := by rw [hu, hs, List.cons_append]
  rw [segments_cleanText_of_last hc hroot hs' hl, List.foldl_cons, step_nil, List.foldl_append,
    foldl_step_ordinary hn, List.append_nil]

end Resources.Path

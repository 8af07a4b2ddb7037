import Resources.Proofs.Path.Walk

/-! Paths that climb more than they have gone down. Their stacks reach what lies under them. -/
namespace Resources.Path

variable {rooted : Bool} {stack floor ss : List Segment} {s : Segment}

/-- On the way, there are more climbs than names. -/
def Overclimbs (ss : List Segment) : Prop :=
  ∃ pre, pre <+: ss ∧ pre.countP Ordinary < pre.count up

theorem up_mem_push (h : up ∈ stack) : up ∈ push rooted stack s := by
  unfold push
  grind

theorem up_mem_foldl_push (h : up ∈ stack) : up ∈ ss.foldl (push rooted) stack := by
  induction ss generalizing stack with
  | nil => exact h
  | cons s ss ih => exact ih (up_mem_push h)

theorem push_up_climbs (h : ∀ t ∈ stack, t = up) : push false stack up = up :: stack := by
  cases stack with
  | nil => rfl
  | cons t stack =>
    obtain rfl := h t (by simp)
    rfl

/-- A floor is left as it is when nothing climbs down to it, or when it is itself a climb. -/
theorem push_append (h : Folded false stack)
    (hf : rooted = false ∧ floor = [up] ∨ up ∉ push false stack s) :
    push rooted (stack ++ floor) s = push false stack s ++ floor := by
  rcases segment_cases s with hs | rfl | hs
  · rw [push_idle hs, push_idle hs]
  · rcases push_up h with ⟨top, below, rfl, ht, he⟩ | ⟨hr, -⟩ | ⟨-, hu, he⟩
    · rw [he, List.cons_append, push_up_ordinary ht]
    · simp at hr
    · rcases hf with ⟨rfl, rfl⟩ | hf
      · rw [he, push_up_climbs (by simpa [or_imp, forall_and] using hu), List.cons_append]
      · simp [he] at hf
  · rw [push_ordinary hs, push_ordinary hs, List.cons_append]

theorem foldl_push_append (h : Folded false stack)
    (hf : rooted = false ∧ floor = [up] ∨ up ∉ ss.foldl (push false) stack) :
    ss.foldl (push rooted) (stack ++ floor) = ss.foldl (push false) stack ++ floor := by
  induction ss generalizing stack with
  | nil => rfl
  | cons s ss ih =>
    have hs : rooted = false ∧ floor = [up] ∨ up ∉ push false stack s := by
      refine hf.imp_right fun hf hu => hf ?_
      rw [List.foldl_cons]
      exact up_mem_foldl_push hu
    rw [List.foldl_cons, push_append h hs, ih (folded_push h s) hf, List.foldl_cons]

/-! ### Counting -/

theorem prefix_cons_climbs {k : Nat} :
    (∃ pre, pre <+: s :: ss ∧ k + pre.countP Ordinary < pre.count up) ↔
      ∃ pre, pre <+: ss ∧ k + (s :: pre).countP Ordinary < (s :: pre).count up := by
  constructor
  · rintro ⟨pre, hp, hc⟩
    rcases List.prefix_cons_iff.1 hp with rfl | ⟨pre, rfl, ht⟩
    · simp at hc
    · exact ⟨pre, ht, hc⟩
  · rintro ⟨pre, hp, hc⟩
    exact ⟨s :: pre, List.prefix_cons_inj s |>.2 hp, hc⟩

/-- A stack of names holds out as long as the climbs are at most its names and those put on it. -/
theorem up_mem_foldl_push_iff (h : ∀ t ∈ stack, Ordinary t) :
    up ∈ ss.foldl (push false) stack ↔
      ∃ pre, pre <+: ss ∧ stack.length + pre.countP Ordinary < pre.count up := by
  induction ss generalizing stack with
  | nil =>
    have hu : up ∉ stack := fun hu => (h up hu).2.2 rfl
    simp [hu]
  | cons s ss ih =>
    rw [List.foldl_cons, prefix_cons_climbs]
    rcases segment_cases s with hs | rfl | hs
    · have ho := not_ordinary_idle hs
      have hu := ne_up_of_idle hs
      rw [push_idle hs, ih h]
      simp [ho, hu]
    · cases stack with
      | nil =>
        have hup : up ∈ ss.foldl (push false) [up] := up_mem_foldl_push (by simp)
        exact iff_of_true hup ⟨[], List.nil_prefix, by simp⟩
      | cons t stack =>
        rw [push_up_ordinary (h t (by simp)), ih fun u hu => h u (by simp [hu])]
        simp only [List.length_cons, List.countP_cons, List.count_cons, not_ordinary_up]
        grind
    · rw [push_ordinary hs, ih (by simpa [hs] using h)]
      simp only [List.length_cons, List.countP_cons, List.count_cons, hs]
      have hu : s ≠ up := hs.2.2
      grind

theorem overclimbs_iff : Overclimbs ss ↔ up ∈ ss.foldl (push false) [] := by
  rw [up_mem_foldl_push_iff (by simp)]
  simp [Overclimbs]

instance : DecidablePred Overclimbs := fun _ => decidable_of_iff _ overclimbs_iff.symm

/-- A walk climbs first, if it climbs more than it goes down, and then it goes down. -/
theorem foldl_step_eq (ss : List Segment) : ∃ (k : Nat) (ns : List Segment),
    (∀ s ∈ ns, Ordinary s) ∧ (Overclimbs ss ↔ k ≠ 0) ∧
    ∀ place, ss.foldl step place = ns.reverse ++ place.drop k := by
  have hf : Folded false [] := folded_nil
  obtain ⟨ns, k, h, hn, -⟩ := folded_foldl ss hf
  refine ⟨k, ns.reverse, by simpa using hn, ?_, fun place => ?_⟩
  · have hu : up ∉ ns := fun hu => (hn up hu).2.2 rfl
    rw [overclimbs_iff, h, List.mem_append, List.mem_replicate]
    simp [hu]
  · have hr : (ss.foldl (push false) []).reverse.foldl step place = ss.foldl step place :=
      replay_foldl hf (by simp)
    rw [← hr, h, List.reverse_append, List.reverse_replicate,
      foldl_replicate_up_append (by simpa using hn)]

end Resources.Path

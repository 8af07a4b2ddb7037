import Mathlib.Tactic.Common
import Resources.Path.Lexical

/-! Paths as walks. A stack of segments leads where the segments it was made of lead. -/
namespace Resources.Path

variable {rooted : Bool} {place stack ss : List Segment} {s t : Segment}

/-- A segment that neither stays nor climbs. -/
def Ordinary (s : Segment) : Prop := s ≠ [] ∧ s ≠ here ∧ s ≠ up

instance : DecidablePred Ordinary := fun _ => inferInstanceAs (Decidable (_ ∧ _ ∧ _))

/-- One segment from a place, which is given by its names, innermost first. The root is above
itself. -/
def step (place : List Segment) (s : Segment) : List Segment :=
  if s = [] ∨ s = here then place else if s = up then place.tail else s :: place

/-- Where a path leads from a place. A rooted one begins at the root. -/
def walk (place : List Segment) (p : List Char) : List Segment :=
  (segments p).foldl step (if p.head? = some '/' then [] else place)

/-- Names over climbs. Under a root there are no climbs. -/
def Folded (rooted : Bool) (stack : List Segment) : Prop :=
  ∃ names climbs, stack = names ++ List.replicate climbs up ∧ (∀ s ∈ names, Ordinary s) ∧
    (rooted = true → climbs = 0)

@[simp] theorem up_ne_nil : up ≠ [] := List.cons_ne_nil _ _

@[simp] theorem up_ne_here : up ≠ here := by simp [up, here]

@[simp] theorem here_ne_nil : here ≠ [] := List.cons_ne_nil _ _

@[simp] theorem not_ordinary_nil : ¬ Ordinary [] := fun h => h.1 rfl

@[simp] theorem not_ordinary_up : ¬ Ordinary up := fun h => h.2.2 rfl

theorem not_ordinary_idle (h : s = [] ∨ s = here) : ¬ Ordinary s := by
  rintro ⟨hn, hh, -⟩
  exact h.elim hn hh

theorem ne_up_of_idle (h : s = [] ∨ s = here) : s ≠ up := by
  rcases h with rfl | rfl
  · exact up_ne_nil.symm
  · exact up_ne_here.symm

/-- A segment that a drive begins is a name. -/
theorem ordinary_drive {c : Char} : Ordinary (c :: ':' :: s) := by simp [Ordinary, here, up]

@[simp] theorem step_nil : step place [] = place := by simp [step]

@[simp] theorem step_here : step place here = place := by simp [step]

@[simp] theorem step_up : step place up = place.tail := by simp [step, up, here]

theorem step_ordinary (h : Ordinary s) : step place s = s :: place := by
  simp [step, h.1, h.2.1, h.2.2]

theorem push_idle (h : s = [] ∨ s = here) : push rooted stack s = stack := by simp [push, h]

theorem push_ordinary (h : Ordinary s) : push rooted stack s = s :: stack := by
  simp [push, h.1, h.2.1, h.2.2]

theorem push_up_ordinary (h : Ordinary t) : push rooted (t :: stack) up = stack := by
  simp [push, h.2.2]

theorem segment_cases (s) : (s = [] ∨ s = here) ∨ s = up ∨ Ordinary s := by
  by_cases h : s = [] ∨ s = here
  · exact Or.inl h
  · by_cases hu : s = up
    · exact Or.inr (Or.inl hu)
    · exact Or.inr (Or.inr ⟨fun he => h (Or.inl he), fun he => h (Or.inr he), hu⟩)

/-! ### Stacks -/

theorem folded_nil : Folded rooted [] := ⟨[], 0, rfl, by simp, fun _ => rfl⟩

theorem folded_climb (h : Folded false stack) (ht : ∀ t ∈ stack, t = up) :
    Folded false (up :: stack) := by
  obtain ⟨names, k, rfl, hn, -⟩ := h
  cases names with
  | nil => exact ⟨[], k + 1, rfl, by simp, by simp⟩
  | cons n names => exact absurd (ht n (by simp)) (hn n (by simp)).2.2

/-- A climb cancels the name on top, is lost at a root, and is kept anywhere else. -/
theorem push_up (h : Folded rooted stack) :
    (∃ top below, stack = top :: below ∧ Ordinary top ∧ push rooted stack up = below) ∨
    (rooted = true ∧ stack = [] ∧ push rooted stack up = []) ∨
    (rooted = false ∧ (∀ t ∈ stack, t = up) ∧ push rooted stack up = up :: stack) := by
  obtain ⟨names, k, rfl, hn, hr⟩ := h
  cases names with
  | cons n names =>
    have ho := hn n (by simp)
    exact Or.inl ⟨n, names ++ List.replicate k up, rfl, ho, push_up_ordinary ho⟩
  | nil =>
    right
    cases rooted with
    | true =>
      obtain rfl := hr rfl
      exact Or.inl ⟨rfl, rfl, rfl⟩
    | false =>
      refine Or.inr ⟨rfl, by simp, ?_⟩
      cases k with
      | zero => rfl
      | succ k => simp [push, List.replicate_succ]

theorem folded_push (h : Folded rooted stack) (s : Segment) :
    Folded rooted (push rooted stack s) := by
  rcases segment_cases s with hs | rfl | hs
  · rwa [push_idle hs]
  · rcases push_up h with ⟨top, below, rfl, ht, he⟩ | ⟨-, rfl, he⟩ | ⟨rfl, hu, he⟩ <;> rw [he]
    · obtain ⟨names, k, hk, hn, hr⟩ := h
      cases names with
      | nil =>
        have hm : top ∈ List.replicate k up := by simp [← show _ = List.replicate k up from hk]
        exact absurd (List.eq_of_mem_replicate hm) ht.2.2
      | cons n names =>
        obtain ⟨rfl, rfl⟩ := List.cons.inj hk
        exact ⟨names, k, rfl, fun s hs => hn s (by simp [hs]), hr⟩
    · exact folded_nil
    · exact folded_climb h hu
  · rw [push_ordinary hs]
    obtain ⟨names, k, rfl, hn, hr⟩ := h
    exact ⟨s :: names, k, rfl, by simpa [hs] using hn, hr⟩

theorem folded_foldl (ss : List Segment) (h : Folded rooted stack) :
    Folded rooted (ss.foldl (push rooted) stack) := by
  induction ss generalizing stack with
  | nil => exact h
  | cons s ss ih => exact ih (folded_push h s)

/-- One more segment on the stack is one more step of its walk. -/
theorem replay_push (h : Folded rooted stack) (hr : rooted = true → place = []) (s : Segment) :
    (push rooted stack s).reverse.foldl step place = step (stack.reverse.foldl step place) s := by
  rcases segment_cases s with hs | rfl | hs
  · rcases hs with rfl | rfl <;> simp [push]
  · rcases push_up h with ⟨top, below, rfl, ht, he⟩ | ⟨hrt, rfl, he⟩ | ⟨-, -, he⟩ <;> rw [he]
    · simp [step_ordinary ht]
    · simp [hr hrt]
    · simp
  · rw [push_ordinary hs]
    simp [step_ordinary hs]

theorem replay_foldl (h : Folded rooted stack) (hr : rooted = true → place = []) :
    (ss.foldl (push rooted) stack).reverse.foldl step place =
      ss.foldl step (stack.reverse.foldl step place) := by
  induction ss generalizing stack with
  | nil => rfl
  | cons s ss ih =>
    rw [List.foldl_cons, ih (folded_push h s), replay_push h hr, List.foldl_cons]

theorem foldl_step_ordinary (h : ∀ s ∈ ss, Ordinary s) :
    ss.foldl step place = ss.reverse ++ place := by
  induction ss generalizing place with
  | nil => rfl
  | cons s ss ih =>
    rw [List.foldl_cons, step_ordinary (h s (by simp)), ih (fun t ht => h t (by simp [ht]))]
    simp

theorem foldl_step_up (k : Nat) : (List.replicate k up).foldl step place = place.drop k := by
  induction k generalizing place with
  | zero => rfl
  | succ k ih => simp [List.replicate_succ, ih]

/-- The walk of climbs and names forgets as many names as there are climbs. -/
theorem foldl_replicate_up_append {k : Nat} {ns : List Segment} (h : ∀ s ∈ ns, Ordinary s) :
    (List.replicate k up ++ ns).foldl step place = ns.reverse ++ place.drop k := by
  rw [List.foldl_append, foldl_step_up, foldl_step_ordinary h]

/-- What is put in front of every list, less what is dropped of it, can be told. -/
theorem append_drop_inj {α : Type} (a : α) {j k : Nat} {ms ns : List α}
    (h : ∀ place : List α, ms ++ place.drop j = ns ++ place.drop k) : j = k ∧ ms = ns := by
  have hmn : ms = ns := by simpa using h []
  subst hmn
  have hl := congrArg List.length (h (List.replicate (j + k) a))
  simp at hl
  exact ⟨by omega, rfl⟩

/-- Walks from all places tell names apart: the one from the root shows those behind the climbs, and
a deep enough one shows the climbs. -/
theorem eq_of_walks {j k : Nat} {ms ns : List Segment} (hm : ∀ s ∈ ms, Ordinary s)
    (hn : ∀ s ∈ ns, Ordinary s)
    (h : ∀ place, (List.replicate j up ++ ms).foldl step place =
      (List.replicate k up ++ ns).foldl step place) : j = k ∧ ms = ns := by
  simp only [foldl_replicate_up_append hm, foldl_replicate_up_append hn] at h
  obtain ⟨hjk, hmn⟩ := append_drop_inj up h
  exact ⟨hjk, List.reverse_inj.1 hmn⟩

/-- Nothing is on a stack that was not among its segments. -/
theorem mem_push (h : s ∈ push rooted stack t) : s ∈ stack ∨ s = t := by
  unfold push at h
  grind

theorem mem_foldl_push (h : s ∈ ss.foldl (push rooted) stack) : s ∈ stack ∨ s ∈ ss := by
  induction ss generalizing stack with
  | nil => exact Or.inl h
  | cons t ss ih =>
    rcases ih h with h | h
    · rcases mem_push h with h | rfl <;> simp [*]
    · simp [h]

theorem push_sublist : (push rooted stack s).reverse.Sublist (stack.reverse ++ [s]) := by
  have hskip : stack.reverse.Sublist (stack.reverse ++ [s]) := List.sublist_append_left ..
  have hpop : stack.tail.reverse.Sublist (stack.reverse ++ [s]) :=
    (List.tail_sublist stack).reverse.trans hskip
  unfold push
  split
  · exact hskip
  · split
    · rename_i hu
      cases stack with
      | nil => cases rooted <;> simp [hu]
      | cons top below =>
        simp only
        split
        · exact hpop
        · split
          · exact hskip
          · simp [hu]
    · simp

/-- The segments that are kept stay in their order. -/
theorem foldl_push_sublist (ss : List Segment) :
    (ss.foldl (push rooted) stack).reverse.Sublist (stack.reverse ++ ss) := by
  induction ss generalizing stack with
  | nil => simp
  | cons s ss ih =>
    have hp : (push rooted stack s).reverse.Sublist (stack.reverse ++ [s]) := push_sublist
    have hs := ih.trans (hp.append_right ss)
    simpa using hs

end Resources.Path

import Mathlib.Data.Bool.AllAny
import Mathlib.Data.List.TakeWhile
import Mathlib.Tactic.Common

/-! Text with marks in it. A mark cuts a text where it comes first, or where it comes last. -/
namespace Resources

variable {m : Char} {x y r r' t : List Char}

/-- None of the characters is in the text. -/
def Lacks (t marks : List Char) : Prop := ∀ c ∈ marks, c ∉ t

/-- The text before the first mark, and the text behind it. -/
theorem append_mark_inj (hx : m ∉ x) (hy : m ∉ y) (h : x ++ m :: r = y ++ m :: r') :
    x = y ∧ r = r' := by
  induction x generalizing y with
  | nil =>
    cases y with
    | nil => exact ⟨rfl, (List.cons.inj h).2⟩
    | cons c y => exact absurd ((List.cons.inj h).1 ▸ List.mem_cons_self) hy
  | cons c x ih =>
    rw [List.mem_cons, not_or] at hx
    cases y with
    | nil => exact absurd (List.cons.inj h).1.symm hx.1
    | cons d y =>
      rw [List.mem_cons, not_or] at hy
      obtain ⟨hc, hrest⟩ := List.cons.inj h
      obtain ⟨hx, hr⟩ := ih hx.2 hy.2 hrest
      exact ⟨by rw [hc, hx], hr⟩

section

variable {α : Type} {mark : α} {above last xs : List α}

/-- A text has no mark, or a last one. -/
theorem last_mark_cases (mark : α) (xs : List α) :
    mark ∉ xs ∨ ∃ above last, xs = above ++ mark :: last ∧ mark ∉ last := by
  by_cases h : mark ∈ xs.reverse
  · obtain ⟨last, above, hxs, hl⟩ := List.eq_append_cons_of_mem h
    exact Or.inr ⟨above.reverse, last.reverse, by simpa using congrArg List.reverse hxs,
      by simpa using hl⟩
  · exact Or.inl (by simpa using h)

variable [DecidableEq α]

theorem dropWhile_of_no_mark (h : mark ∉ xs) :
    (xs.reverse.dropWhile (· ≠ mark)).reverse = [] := by
  have hd : xs.reverse.dropWhile (· ≠ mark) = [] := by
    simp only [List.dropWhile_eq_nil_iff, List.mem_reverse, ne_eq, decide_not, Bool.not_eq_true',
      decide_eq_false_iff_not]
    rintro a ha rfl
    exact h ha
  rw [hd, List.reverse_nil]

/-- What stands before the last mark, and the mark. -/
theorem dropWhile_of_last_mark (h : mark ∉ last) :
    ((above ++ mark :: last).reverse.dropWhile (· ≠ mark)).reverse = above ++ [mark] := by
  have hd : last.reverse.dropWhile (· ≠ mark) = [] := by simpa using dropWhile_of_no_mark h
  rw [List.reverse_append, List.reverse_cons, List.append_assoc, List.dropWhile_append, hd]
  simp

end

theorem takeWhile_of_no_mark (h : m ∉ t) : (t.reverse.takeWhile (· ≠ m)).reverse = t := by
  have hall : t.reverse.takeWhile (· ≠ m) = t.reverse := by
    rw [List.takeWhile_eq_self_iff]
    intro c hc
    have hne : c ≠ m := by
      rintro rfl
      exact h (by simpa using hc)
    simpa using hne
  rw [hall, List.reverse_reverse]

/-- What stands behind the last mark. -/
theorem takeWhile_of_last_mark (h : m ∉ t) (x : List Char) :
    ((x ++ m :: t).reverse.takeWhile (· ≠ m)).reverse = t := by
  have hall : ∀ c ∈ t.reverse, decide (c ≠ m) = true := by
    intro c hc
    have hne : c ≠ m := by
      rintro rfl
      exact h (by simpa using hc)
    simpa using hne
  rw [List.reverse_append, List.reverse_cons, List.append_assoc, List.singleton_append,
    List.takeWhile_append_of_pos hall, List.takeWhile_cons_of_neg (by simp), List.append_nil,
    List.reverse_reverse]

end Resources

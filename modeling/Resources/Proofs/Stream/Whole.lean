import Mathlib.Tactic.Common
import Resources.Stream

/-! Streams that are read to their end. All the bytes come, whatever the sizes of the reads. -/
namespace Resources.Stream

variable {d : Disk} {s : Stream} {fuel n : Nat}

/-- A read gives some byte as long as there is one. -/
def Flows : Stream → Prop
  | source s => s.limit ≠ some 0
  | _ => True

/-- What comes of reading to the end: all that remains, or the fault behind it. -/
def whole (d : Disk) (s : Stream) : Except Fault Bytes :=
  match s.remaining d with
  | (b, none) => .ok b
  | (_, some f) => .error f

theorem take_append_drop_length (b : Bytes) (n : Nat) :
    b.take n ++ b.drop (b.take n).length = b := by
  rw [List.length_take, List.take_eq_take_min, List.take_append_drop]

/-- One read fails behind the last byte, finds the end there, or takes bytes off the front. -/
theorem read_cases (hs : s.Flows) (hn : 0 < n) :
    (∃ f, s.remaining d = ([], some f) ∧ s.read d n = .error f) ∨
    (∃ s', s.remaining d = ([], none) ∧ s.read d n = .ok ([], s')) ∨
    ∃ b s', b ≠ [] ∧ s'.Flows ∧ s.read d n = .ok (b, s') ∧
      s.remaining d = (b ++ (s'.remaining d).1, (s'.remaining d).2) := by
  have hz : n ≠ 0 := by omega
  cases s with
  | directory => exact Or.inl ⟨_, rfl, rfl⟩
  | file body offset =>
    right
    by_cases hr : (d.body body).content.drop offset = []
    · exact Or.inl ⟨file body offset, by simp [remaining, hr], by simp [read, hr]⟩
    · refine Or.inr ⟨((d.body body).content.drop offset).take n, file body _, ?_, ?_, rfl, ?_⟩
      · simpa [List.take_eq_nil_iff, hz] using hr
      · trivial
      · rw [remaining, remaining, ← List.drop_drop, take_append_drop_length]
  | source s =>
    obtain ⟨rest, limit, ending⟩ := s
    have hm : min n (limit.getD n) ≠ 0 := by
      cases limit with
      | none => simpa using hz
      | some k =>
        have hk : k ≠ 0 := by rintro rfl; exact hs rfl
        simp only [Option.getD_some]
        omega
    cases rest with
    | nil =>
      cases ending with
      | some f => exact Or.inl ⟨f, rfl, rfl⟩
      | none => exact Or.inr (Or.inl ⟨_, rfl, by simp [read, Source.read, Except.map]; rfl⟩)
    | cons b rest =>
      refine Or.inr (Or.inr ⟨(b :: rest).take (min n (limit.getD n)),
        source ⟨(b :: rest).drop (min n (limit.getD n)), limit, ending⟩, ?_, hs, rfl, ?_⟩)
      · simp [List.take_eq_nil_iff, hm]
      · rw [remaining, remaining, List.take_append_drop]

/-- Reading on takes as much fuel as there are bytes, and one read more to find the end. -/
theorem gather_none (hs : s.Flows) (hf : (s.remaining d).1.length < fuel) :
    (gather d fuel none s).1 = s.whole d := by
  induction fuel generalizing s with
  | zero => omega
  | succ fuel ih =>
    unfold gather
    simp only [reduceCtorEq, if_false, Option.getD_none]
    rcases read_cases (d := d) hs (show 0 < portion by decide) with
      ⟨f, hr, h⟩ | ⟨s', hr, h⟩ | ⟨b, s', hb, hs', h, hr⟩
    · simp [h, whole, hr]
    · simp [h, whole, hr]
    · obtain ⟨x, b, rfl⟩ := List.exists_cons_of_ne_nil hb
      have hlen : (s'.remaining d).1.length < fuel := by
        simp [hr] at hf
        omega
      simp only [h, Option.map_none, ih hs' hlen, whole, hr]
      obtain ⟨rest, ending⟩ := s'.remaining d
      cases ending <;> rfl

theorem take_none (hs : s.Flows) : (s.take d none).1 = s.whole d :=
  gather_none hs (Nat.lt_succ_self _)

end Resources.Stream

import Resources.Proofs.Text.Utf8

/-! Decoding in which every fault becomes a replacement character. Text is decoded to itself, and an
ASCII byte ends whatever sequence is open before it. -/
namespace Resources.Utf8

variable {b : UInt8} {cs : List Char} {p : Pending} {seq : Option Pending}

/-- A piece as it is shown. -/
def Piece.shown : Piece → Char
  | .char c => c
  | .bad _ | .cut _ => '\ufffd'

theorem decodeLossy_eq (bs : Bytes) : decodeLossy bs = (pieces none bs).map Piece.shown := by
  unfold decodeLossy
  apply List.map_congr_left
  rintro (c | n | n) - <;> rfl

theorem pieces_encode (cs : List Char) : pieces none (encode cs) = cs.map .char := by
  induction cs with
  | nil => rfl
  | cons c cs ih => rw [encode_cons, pieces_encodeChar, ih, List.map_cons]

@[simp] theorem decodeLossy_encode (cs : List Char) : decodeLossy (encode cs) = cs := by
  rw [decodeLossy_eq, pieces_encode, List.map_map]
  exact List.map_id cs

theorem begin_ascii {n : Nat} (h : n < 0x80) : begin n = .inl (.char (Char.ofNat n)) := if_pos h

/-- No sequence that is open goes on with an ASCII byte. -/
theorem low_of_begin {n : Nat} (h : begin n = .inr p) : 0x80 ≤ p.low := by
  unfold begin at h
  split_ifs at h <;> cases h <;> simp

/-- An ASCII byte is shown as its character, and decoding starts afresh behind it. -/
theorem shown_pieces_append (hb : b.toNat < 0x80) (as r : Bytes)
    (hseq : ∀ p, seq = some p → 0x80 ≤ p.low) :
    (pieces seq (as ++ b :: r)).map Piece.shown =
      (pieces seq as).map Piece.shown ++ Char.ofNat b.toNat :: (pieces none r).map Piece.shown := by
  -- The bytes before the mark may leave a sequence open; no mark can go on with it.
  induction as generalizing seq with
  | nil =>
    cases seq with
    | none => simp [pieces, begin_ascii hb, Piece.shown]
    | some p =>
      have hlow := hseq p rfl
      have hout : ¬ (p.low ≤ b.toNat ∧ b.toNat ≤ p.high) := by omega
      simp only [List.nil_append, pieces, if_neg hout, begin_ascii hb]
      rfl
  | cons a as ih =>
    have hafresh := @ih none (by simp)
    have hopen (q : Pending) (hq : 0x80 ≤ q.low) := @ih (some q) fun p hp =>
      Option.some.inj hp ▸ hq
    cases seq with
    | none =>
      rw [List.cons_append, pieces, pieces]
      cases hbegin : begin a.toNat with
      | inl x => simpa using hafresh
      | inr q => exact hopen q (low_of_begin hbegin)
    | some p =>
      rw [List.cons_append, pieces, pieces]
      by_cases hin : p.low ≤ a.toNat ∧ a.toNat ≤ p.high
      · simp only [if_pos hin]
        by_cases howed : p.owed ≤ 1
        · simpa [if_pos howed] using hafresh
        · simpa only [if_neg howed] using hopen _ (Nat.le_refl _)
      · simp only [if_neg hin, List.map_cons, List.cons_append]
        congr 1
        cases hbegin : begin a.toNat with
        | inl x => simpa using hafresh
        | inr q => exact hopen q (low_of_begin hbegin)

theorem decodeLossy_append (hb : b.toNat < 0x80) (as r : Bytes) :
    decodeLossy (as ++ b :: r) = decodeLossy as ++ Char.ofNat b.toNat :: decodeLossy r := by
  rw [decodeLossy_eq, decodeLossy_eq, decodeLossy_eq]
  exact shown_pieces_append hb as r (by simp)

end Resources.Utf8

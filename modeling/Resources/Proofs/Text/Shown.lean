import Resources.Proofs.Text.Decode
import Resources.Proofs.Text.Lossy

/-! Text that is shown for bytes. A character of ASCII in it is a byte of its own, and where no
replacement is shown the bytes are those of the text. -/
namespace Resources.Utf8

variable {b : UInt8} {bs r : Bytes} {c : Char} {n : Nat} {p : Pending} {seq : Option Pending}

/-- The bytes that a sequence has so far keep its character out of ASCII, whatever follows. -/
structure Pending.Wide (p : Pending) : Prop where
  low : 0x80 ≤ p.low
  begun : 1 ≤ p.value * 0x40 + (p.low - 0x80)
  halfway : p.owed ≤ 2 → 2 ≤ p.value * 0x40 + (p.low - 0x80)
  ended : p.owed ≤ 1 → 0x80 ≤ p.value * 0x40 + (p.low - 0x80)

theorem wide_of_begin (h : begin n = .inr p) : p.Wide := by
  unfold begin at h
  split_ifs at h <;> cases h <;> constructor <;> simp <;> omega

theorem Pending.Wide.next (hp : p.Wide) (hn : p.low ≤ n) (howed : ¬ p.owed ≤ 1) :
    Pending.Wide ⟨p.seen + 1, p.owed - 1, 0x80, 0xBF, p.value * 0x40 + (n - 0x80)⟩ := by
  obtain ⟨hlow, hbegun, hhalfway, -⟩ := hp
  constructor <;> simp only <;> omega

/-- A number that is no character becomes the null character. -/
theorem ofNat_of_wide (hn : 0x80 ≤ n) : Char.ofNat n = '\x00' ∨ 0x80 ≤ (Char.ofNat n).toNat := by
  by_cases hvalid : n.isValidChar
  · right
    rwa [toNat_ofNat hvalid]
  · left
    rw [Char.ofNat, dif_neg hvalid]
    rfl

theorem toUInt8_of_begin (h : begin b.toNat = .inl (.char c)) : c.toNat.toUInt8 = b := by
  rcases begin_cases b.toNat with ⟨hb, hchar⟩ | hbad | ⟨a, ha, ha', hb⟩ | ⟨a, ha, hb⟩ | ⟨a, ha, hb⟩
  · rw [hchar] at h
    obtain rfl := Piece.char.inj (Sum.inl.inj h)
    exact eq_toUInt8 (toNat_ofNat (Or.inl (by omega)))
  · simp [hbad] at h
  · simp [hb, begin_two ha ha'] at h
  · simp [hb, begin_three ha] at h
  · simp [hb, begin_four ha] at h

theorem mem_of_mem_begun (hafresh : .char c ∈ pieces none r → c.toNat.toUInt8 ∈ r)
    (hopen : ∀ p : Pending, p.Wide → .char c ∈ pieces (some p) r → c.toNat.toUInt8 ∈ r)
    (h : .char c ∈ match begin b.toNat with
      | .inl x => x :: pieces none r
      | .inr p => pieces (some p) r) : c.toNat.toUInt8 ∈ b :: r := by
  cases hbegin : begin b.toNat with
  | inl x =>
    simp only [hbegin] at h
    rcases List.mem_cons.1 h with rfl | h
    · rw [toUInt8_of_begin hbegin]
      exact List.mem_cons_self
    · exact List.mem_cons_of_mem _ (hafresh h)
  | inr p =>
    simp only [hbegin] at h
    exact List.mem_cons_of_mem _ (hopen p (wide_of_begin hbegin) h)

theorem mem_of_mem_pieces (hc : c.toNat < 0x80) (hnul : c ≠ '\x00')
    (hseq : ∀ p, seq = some p → p.Wide) (h : .char c ∈ pieces seq bs) : c.toNat.toUInt8 ∈ bs := by
  induction bs generalizing seq with
  | nil => cases seq <;> simp [pieces] at h
  | cons b r ih =>
    have hafresh := @ih none (by simp)
    have hopen (p : Pending) (hp : p.Wide) := @ih (some p) fun q hq => Option.some.inj hq ▸ hp
    cases seq with
    | none =>
      rw [pieces] at h
      exact mem_of_mem_begun hafresh hopen h
    | some p =>
      have hp := hseq p rfl
      rw [pieces] at h
      by_cases hin : p.low ≤ b.toNat ∧ b.toNat ≤ p.high
      · simp only [if_pos hin] at h
        by_cases howed : p.owed ≤ 1
        · rw [if_pos howed] at h
          rcases List.mem_cons.1 h with hchar | h
          · have hlow := hp.low
            have hended := hp.ended howed
            have hwide : 0x80 ≤ p.value * 0x40 + (b.toNat - 0x80) := by omega
            rw [Piece.char.inj hchar] at hc hnul
            rcases ofNat_of_wide hwide with h | h
            · exact absurd h hnul
            · omega
          · exact List.mem_cons_of_mem _ (hafresh h)
        · rw [if_neg howed] at h
          exact List.mem_cons_of_mem _ (hopen _ (hp.next hin.1 howed) h)
      · rw [if_neg hin] at h
        rcases List.mem_cons.1 h with h | h
        · cases h
        · exact mem_of_mem_begun hafresh hopen h

/-- Only a byte of its own is shown as a character of ASCII. -/
theorem mem_of_mem_decodeLossy (hc : c.toNat < 0x80) (hnul : c ≠ '\x00') (h : c ∈ decodeLossy bs) :
    c.toNat.toUInt8 ∈ bs := by
  rw [decodeLossy_eq] at h
  obtain ⟨x, hx, rfl⟩ := List.mem_map.1 h
  cases x with
  | char c => exact mem_of_mem_pieces hc hnul (by simp) hx
  | bad n => exact absurd hc (by simp [Piece.shown])
  | cut n => exact absurd hc (by simp [Piece.shown])

/-- Bytes for which no replacement is shown are text. -/
theorem encode_decodeLossy (h : '\ufffd' ∉ decodeLossy bs) : encode (decodeLossy bs) = bs := by
  apply encode_of_pieces
  rw [decodeLossy_eq] at h ⊢
  rw [List.map_map]
  refine (List.map_id _).symm.trans (List.map_congr_left fun x hx => ?_)
  cases x with
  | char c => rfl
  | bad n => exact absurd (List.mem_map.2 ⟨_, hx, rfl⟩) h
  | cut n => exact absurd (List.mem_map.2 ⟨_, hx, rfl⟩) h

/-- What is shown for bytes is a text without replacements only for its own bytes. -/
theorem decodeLossy_eq_iff {t : List Char} (h : '\ufffd' ∉ t) : decodeLossy bs = t ↔ bs = encode t := by
  constructor
  · rintro rfl
    exact (encode_decodeLossy h).symm
  · rintro rfl
    exact decodeLossy_encode t

end Resources.Utf8

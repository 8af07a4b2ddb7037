import Mathlib.Tactic.IntervalCases
import Mathlib.Tactic.SplitIfs
import Resources.Text.Utf8

/-! Encoded text decodes to itself, and only a slash is encoded with the byte of a slash. -/
namespace Resources.Utf8

theorem char_bounds (c : Char) : c.toNat < 0xD800 ∨ 0xDFFF < c.toNat ∧ c.toNat < 0x110000 := by
  simpa [UInt32.isValidChar, Nat.isValidChar] using c.valid

theorem toNat_toUInt8 {n : Nat} (h : n < 0x100) : n.toUInt8.toNat = n := by
  simp [Nat.toUInt8, UInt8.toNat_ofNat_of_lt' h]

theorem begin_two {a : Nat} (ha : 2 ≤ a) (hb : a < 0x20) :
    begin (0xC0 + a) = .inr ⟨1, 1, 0x80, 0xBF, a⟩ := by
  interval_cases a <;> rfl

/-- The bounds of the byte behind the lead keep out shorter forms and surrogates. -/
theorem begin_three {a : Nat} (ha : a < 0x10) : begin (0xE0 + a) =
    .inr ⟨1, 2, if a = 0 then 0xA0 else 0x80, if a = 0xD then 0x9F else 0xBF, a⟩ := by
  interval_cases a <;> rfl

theorem begin_four {a : Nat} (ha : a < 5) : begin (0xF0 + a) =
    .inr ⟨1, 3, if a = 0 then 0x90 else 0x80, if a = 4 then 0x8F else 0xBF, a⟩ := by
  interval_cases a <;> rfl

theorem pieces_lead {n : Nat} {p : Pending} (r : Bytes) (hn : n < 0x100)
    (hb : begin n = .inr p) : pieces none (n.toUInt8 :: r) = pieces (some p) r := by
  simp [pieces, toNat_toUInt8 hn, hb]

theorem pieces_next {p : Pending} {n : Nat} (r : Bytes) (hn : n < 0x100)
    (hb : p.low ≤ n ∧ n ≤ p.high) (ho : ¬ p.owed ≤ 1) :
    pieces (some p) (n.toUInt8 :: r) =
      pieces (some ⟨p.seen + 1, p.owed - 1, 0x80, 0xBF, p.value * 0x40 + (n - 0x80)⟩) r := by
  simp [pieces, toNat_toUInt8 hn, hb, ho]

theorem pieces_last {p : Pending} {n : Nat} (r : Bytes) (hn : n < 0x100)
    (hb : p.low ≤ n ∧ n ≤ p.high) (ho : p.owed ≤ 1) :
    pieces (some p) (n.toUInt8 :: r) =
      .char (Char.ofNat (p.value * 0x40 + (n - 0x80))) :: pieces none r := by
  simp [pieces, toNat_toUInt8 hn, hb, ho]

/-- A whole sequence in front of other bytes is read as its character. -/
theorem pieces_encodeChar (c : Char) (r : Bytes) :
    pieces none (encodeChar c ++ r) = .char c :: pieces none r := by
  have hb := char_bounds c
  have hc : Char.ofNat c.toNat = c := Char.ofNat_toNat c
  unfold encodeChar
  generalize c.toNat = n at *
  simp only
  -- one case for each width of a sequence
  split
  · rename_i h
    simp [pieces, begin, toNat_toUInt8 (show n < 0x100 by omega), h, hc]
  split
  · have hv : n / 0x40 * 0x40 + (0x80 + n % 0x40 - 0x80) = n := by omega
    simp only [List.cons_append, List.nil_append]
    rw [pieces_lead _ (by omega) (begin_two (by omega) (by omega)),
      pieces_last _ (by omega) ⟨by simp, by simp; omega⟩ (by simp)]
    simp only [hv, hc]
  split
  · have hv : (n / 0x1000 * 0x40 + (0x80 + n / 0x40 % 0x40 - 0x80)) * 0x40 +
        (0x80 + n % 0x40 - 0x80) = n := by omega
    simp only [List.cons_append, List.nil_append]
    rw [pieces_lead _ (by omega) (begin_three (by omega)),
      pieces_next _ (by omega) (by dsimp only; split <;> split <;> omega) (by simp),
      pieces_last _ (by omega) ⟨by simp, by simp; omega⟩ (by simp)]
    simp only [hv, hc]
  · have hv : ((n / 0x40000 * 0x40 + (0x80 + n / 0x1000 % 0x40 - 0x80)) * 0x40 +
        (0x80 + n / 0x40 % 0x40 - 0x80)) * 0x40 + (0x80 + n % 0x40 - 0x80) = n := by omega
    simp only [List.cons_append, List.nil_append]
    rw [pieces_lead _ (by omega) (begin_four (by omega)),
      pieces_next _ (by omega) (by dsimp only; split <;> split <;> omega) (by simp),
      pieces_next _ (by omega) ⟨by simp, by simp; omega⟩ (by simp),
      pieces_last _ (by omega) ⟨by simp, by simp; omega⟩ (by simp)]
    simp only [hv, hc]

theorem encodeChar_ne_nil (c : Char) : encodeChar c ≠ [] := by
  unfold encodeChar
  simp only
  split_ifs <;> simp

@[simp] theorem encode_nil : encode [] = [] := rfl

theorem encode_cons (c : Char) (cs : List Char) : encode (c :: cs) = encodeChar c ++ encode cs := by
  simp [encode]

theorem encode_ascii {c : Char} (hc : c.toNat < 0x80) (t : List Char) :
    encode (c :: t) = c.toNat.toUInt8 :: encode t := by
  rw [encode_cons, encodeChar, if_pos hc, List.singleton_append]

@[simp] theorem encode_append (a b : List Char) : encode (a ++ b) = encode a ++ encode b := by
  simp [encode]

theorem gather_pieces_encode (cs : List Char) (i : Nat) :
    gather i (pieces none (encode cs)) = .ok cs := by
  induction cs generalizing i with
  | nil => rfl
  | cons c cs ih =>
    rw [encode_cons, pieces_encodeChar, gather, ih]
    rfl

@[simp] theorem decode_encode (cs : List Char) : decode? (encode cs) = some cs := by
  simp [decode?, decode, gather_pieces_encode, Except.toOption]

theorem encode_inj {a b : List Char} : encode a = encode b ↔ a = b := by
  constructor
  · intro h
    simpa using congrArg decode? h
  · rintro rfl
    rfl

/-- The bytes of a character outside ASCII are all outside ASCII. -/
theorem mem_encodeChar {c : Char} {b : UInt8} (h : b ∈ encodeChar c) (hb : b.toNat < 0x80) :
    c.toNat = b.toNat ∧ encodeChar c = [b] := by
  have hn := char_bounds c
  unfold encodeChar at h ⊢
  generalize c.toNat = n at *
  simp only at h ⊢
  split at h
  · rename_i hlt
    obtain rfl : b = n.toUInt8 := by simpa using h
    simp [hlt, toNat_toUInt8 (show n < 0x100 by omega)]
  split at h
  · simp only [List.mem_cons, List.not_mem_nil, or_false] at h
    rcases h with rfl | rfl <;> rw [toNat_toUInt8 (by omega)] at hb <;> omega
  split at h
  · simp only [List.mem_cons, List.not_mem_nil, or_false] at h
    rcases h with rfl | rfl | rfl <;> rw [toNat_toUInt8 (by omega)] at hb <;> omega
  · simp only [List.mem_cons, List.not_mem_nil, or_false] at h
    rcases h with rfl | rfl | rfl | rfl <;> rw [toNat_toUInt8 (by omega)] at hb <;> omega

/-- The byte of an ASCII character is met only where the character is. -/
theorem toUInt8_mem_encode {a : Char} {cs : List Char} (ha : a.toNat < 0x80) :
    a.toNat.toUInt8 ∈ encode cs ↔ a ∈ cs := by
  have hn := toNat_toUInt8 (show a.toNat < 0x100 by omega)
  simp only [encode, List.mem_flatMap]
  constructor
  · rintro ⟨c, hc, h⟩
    have he := (mem_encodeChar h (by omega)).1
    rwa [Char.toNat_inj.1 (he.trans hn)] at hc
  · intro h
    exact ⟨a, h, by simp [encodeChar, ha]⟩

end Resources.Utf8

import Mathlib.Data.Bool.AllAny
import Mathlib.Tactic.Common
import Resources.Proofs.Text.Utf8
import Resources.Url.Percent

/-! Percent encoding is undone by decoding, and leaves text alone in which nothing is to be spelled
out. -/
namespace Resources.Percent

variable {set : UInt8 → Bool} {b : UInt8} {bs r : Bytes} {c : Char} {t : List Char} {n : Nat}

/-! ### Digits -/

theorem value?_digit (h : n < 16) :
    (digit n).toNat < 0x80 ∧ value? (digit n).toNat.toUInt8 = some n.toUInt8 := by
  have hall : ∀ m ∈ List.range 16,
      (digit m).toNat < 0x80 ∧ value? (digit m).toNat.toUInt8 = some m.toUInt8 := by decide
  exact hall n (List.mem_range.2 h)

theorem toNat_ofNat_byte (b : UInt8) : (Char.ofNat b.toNat).toNat = b.toNat := by
  have hb : b.toNat < 256 := b.toNat_lt
  have hvalid : b.toNat.isValidChar := Or.inl (by omega)
  unfold Char.ofNat
  rw [dif_pos hvalid]
  rfl

/-! ### Decoding -/

theorem decodeBytes_cons (h : b ≠ 0x25) : decodeBytes (b :: r) = b :: decodeBytes r := by
  match r with
  | [] => rfl
  | [_] => rfl
  | _ :: _ :: _ => rw [decodeBytes, if_neg h]

theorem decodeBytes_escape (h : n < 256) :
    decodeBytes (0x25 :: (digit (n / 16)).toNat.toUInt8 :: (digit (n % 16)).toNat.toUInt8 :: r) =
      n.toUInt8 :: decodeBytes r := by
  have hhigh := (value?_digit (show n / 16 < 16 by omega)).2
  have hlow := (value?_digit (show n % 16 < 16 by omega)).2
  have hsum : (n / 16).toUInt8 * 16 + (n % 16).toUInt8 = n.toUInt8 := by
    rw [← UInt8.toNat_inj]
    simp
    omega
  rw [decodeBytes, if_pos rfl, hhigh, hlow]
  simp only [hsum]

/-- Sets from which text comes back: the percent sign and all that is not ASCII is spelled out. -/
def Invertible (set : UInt8 → Bool) : Prop := ∀ b, set b = false → b.toNat < 0x80 ∧ b ≠ 0x25

theorem decode_encodeByte (hset : Invertible set) (b : UInt8) (t : List Char) :
    decode (encodeByte set b ++ t) = b :: decode t := by
  have hb : b.toNat < 256 := b.toNat_lt
  unfold decode encodeByte
  cases hs : set b with
  | true =>
    have hhigh := (value?_digit (show b.toNat / 16 < 16 by omega)).1
    have hlow := (value?_digit (show b.toNat % 16 < 16 by omega)).1
    simp only [if_true, List.cons_append, List.nil_append]
    rw [Utf8.encode_ascii (by decide), Utf8.encode_ascii hhigh, Utf8.encode_ascii hlow]
    rw [show ('%'.toNat.toUInt8) = 0x25 from rfl, decodeBytes_escape hb]
    simp
  | false =>
    obtain ⟨hlt, hne⟩ := hset b hs
    simp only [Bool.false_eq_true, if_false, List.cons_append, List.nil_append]
    rw [Utf8.encode_ascii (by rwa [toNat_ofNat_byte]), toNat_ofNat_byte]
    simp [decodeBytes_cons hne]

theorem decode_encodeBytes (hset : Invertible set) (bs : Bytes) :
    decode (encodeBytes set bs) = bs := by
  induction bs with
  | nil => rfl
  | cons b bs ih =>
    have hcons : encodeBytes set (b :: bs) = encodeByte set b ++ encodeBytes set bs := rfl
    rw [hcons, decode_encodeByte hset, ih]

theorem invertible_nameSet : Invertible nameSet := by
  intro b hb
  simp only [nameSet, pathSet, querySet, control, Bool.or_eq_false_iff, decide_eq_false_iff_not] at hb
  obtain ⟨⟨⟨⟨-, hhigh⟩, -⟩, -⟩, hmarks⟩ := hb
  refine ⟨?_, ?_⟩
  · have hle : b.toNat ≤ 0x7E := by simpa using UInt8.le_iff_toNat_le.1 (UInt8.not_lt.1 hhigh)
    omega
  · rintro rfl
    exact absurd hmarks (by decide)

end Resources.Percent

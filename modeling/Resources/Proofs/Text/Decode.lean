import Resources.Proofs.Text.Utf8

/-! Bytes that decode to a text are the bytes of that text. -/
namespace Resources.Utf8

variable {b : UInt8} {bs r : Bytes} {cs : List Char} {p : Pending} {n : Nat}

theorem toNat_ofNat (h : n < 0xD800 ∨ 0xDFFF < n ∧ n < 0x110000) : (Char.ofNat n).toNat = n := by
  unfold Char.ofNat
  rw [dif_pos (show n.isValidChar from h)]
  rfl

theorem eq_toUInt8 (h : n = b.toNat) : n.toUInt8 = b := by
  rw [h]
  simp

/-- What a first byte begins. -/
theorem begin_cases (n : Nat) :
    (n < 0x80 ∧ begin n = .inl (.char (Char.ofNat n))) ∨ begin n = .inl (.bad 1) ∨
    (∃ a, 2 ≤ a ∧ a < 0x20 ∧ n = 0xC0 + a) ∨ (∃ a, a < 0x10 ∧ n = 0xE0 + a) ∨
      (∃ a, a < 5 ∧ n = 0xF0 + a) := by
  by_cases h1 : n < 0x80
  · exact Or.inl ⟨h1, if_pos h1⟩
  by_cases h2 : 0xC2 ≤ n ∧ n ≤ 0xDF
  · exact Or.inr (Or.inr (Or.inl ⟨n - 0xC0, by omega, by omega, by omega⟩))
  by_cases h3 : 0xE0 ≤ n ∧ n ≤ 0xEF
  · exact Or.inr (Or.inr (Or.inr (Or.inl ⟨n - 0xE0, by omega, by omega⟩)))
  by_cases h4 : 0xF0 ≤ n ∧ n ≤ 0xF4
  · exact Or.inr (Or.inr (Or.inr (Or.inr ⟨n - 0xF0, by omega, by omega⟩)))
  · right
    left
    unfold begin
    split_ifs <;> first | rfl | omega

/-- A sequence that is a character has its next byte within the bounds. -/
theorem pieces_pending (h : pieces (some p) bs = cs.map .char) : ∃ b r, bs = b :: r ∧
    p.low ≤ b.toNat ∧ b.toNat ≤ p.high ∧
    (p.owed ≤ 1 → ∃ c cs', cs = c :: cs' ∧
      c = Char.ofNat (p.value * 0x40 + (b.toNat - 0x80)) ∧ pieces none r = cs'.map .char) ∧
    (¬ p.owed ≤ 1 → pieces
      (some ⟨p.seen + 1, p.owed - 1, 0x80, 0xBF, p.value * 0x40 + (b.toNat - 0x80)⟩) r =
        cs.map .char) := by
  cases bs with
  | nil => cases cs <;> simp [pieces] at h
  | cons b r =>
    refine ⟨b, r, rfl, ?_⟩
    unfold pieces at h
    by_cases hb : p.low ≤ b.toNat ∧ b.toNat ≤ p.high
    · simp only [if_pos hb] at h
      refine ⟨hb.1, hb.2, fun ho => ?_, fun ho => ?_⟩
      · rw [if_pos ho] at h
        cases cs with
        | nil => simp at h
        | cons c cs =>
          obtain ⟨hc, hr⟩ := List.cons.inj h
          exact ⟨c, cs, rfl, (Piece.char.inj hc).symm, hr⟩
      · rwa [if_neg ho] at h
    · rw [if_neg hb] at h
      cases cs <;> simp at h

/-! ### Characters of whole sequences -/

theorem encodeChar_one (h : n < 0x80) : encodeChar (Char.ofNat n) = [n.toUInt8] := by
  unfold encodeChar
  rw [toNat_ofNat (Or.inl (by omega))]
  simp only [if_pos h]

theorem encodeChar_two {a x : Nat} (ha : 2 ≤ a) (ha' : a < 0x20) (hx : 0x80 ≤ x) (hx' : x ≤ 0xBF) :
    encodeChar (Char.ofNat (a * 0x40 + (x - 0x80))) = [(0xC0 + a).toUInt8, x.toUInt8] := by
  unfold encodeChar
  rw [toNat_ofNat (Or.inl (by omega))]
  simp only
  rw [if_neg (by omega), if_pos (by omega)]
  have hlead : 0xC0 + (a * 0x40 + (x - 0x80)) / 0x40 = 0xC0 + a := by omega
  have hlast : 0x80 + (a * 0x40 + (x - 0x80)) % 0x40 = x := by omega
  rw [hlead, hlast]

theorem encodeChar_three {a x y : Nat} (ha : a < 0x10)
    (hx : (if a = 0 then 0xA0 else 0x80) ≤ x) (hx' : x ≤ if a = 0xD then 0x9F else 0xBF)
    (hy : 0x80 ≤ y) (hy' : y ≤ 0xBF) :
    encodeChar (Char.ofNat ((a * 0x40 + (x - 0x80)) * 0x40 + (y - 0x80))) =
      [(0xE0 + a).toUInt8, x.toUInt8, y.toUInt8] := by
  have hlow : 0x80 ≤ x ∧ (a = 0 → 0xA0 ≤ x) := by
    split at hx <;> omega
  have hhigh : x ≤ 0xBF ∧ (a = 0xD → x ≤ 0x9F) := by
    split at hx' <;> omega
  unfold encodeChar
  rw [toNat_ofNat (by omega)]
  simp only
  rw [if_neg (by omega), if_neg (by omega), if_pos (by omega)]
  generalize hn : (a * 0x40 + (x - 0x80)) * 0x40 + (y - 0x80) = n
  have hlead : 0xE0 + n / 0x1000 = 0xE0 + a := by omega
  have hmiddle : 0x80 + n / 0x40 % 0x40 = x := by omega
  have hlast : 0x80 + n % 0x40 = y := by omega
  rw [hlead, hmiddle, hlast]

theorem encodeChar_four {a x y z : Nat} (ha : a < 5)
    (hx : (if a = 0 then 0x90 else 0x80) ≤ x) (hx' : x ≤ if a = 4 then 0x8F else 0xBF)
    (hy : 0x80 ≤ y) (hy' : y ≤ 0xBF) (hz : 0x80 ≤ z) (hz' : z ≤ 0xBF) :
    encodeChar (Char.ofNat
      (((a * 0x40 + (x - 0x80)) * 0x40 + (y - 0x80)) * 0x40 + (z - 0x80))) =
      [(0xF0 + a).toUInt8, x.toUInt8, y.toUInt8, z.toUInt8] := by
  have hlow : 0x80 ≤ x ∧ (a = 0 → 0x90 ≤ x) := by
    split at hx <;> omega
  have hhigh : x ≤ 0xBF ∧ (a = 4 → x ≤ 0x8F) := by
    split at hx' <;> omega
  unfold encodeChar
  rw [toNat_ofNat (by omega)]
  simp only
  rw [if_neg (by omega), if_neg (by omega), if_neg (by omega)]
  generalize hn : ((a * 0x40 + (x - 0x80)) * 0x40 + (y - 0x80)) * 0x40 + (z - 0x80) = n
  have hlead : 0xF0 + n / 0x40000 = 0xF0 + a := by omega
  have hsecond : 0x80 + n / 0x1000 % 0x40 = x := by omega
  have hthird : 0x80 + n / 0x40 % 0x40 = y := by omega
  have hlast : 0x80 + n % 0x40 = z := by omega
  rw [hlead, hsecond, hthird, hlast]

/-- Pieces that are all characters are those of the bytes of these characters. -/
theorem encode_of_pieces (h : pieces none bs = cs.map .char) : encode cs = bs := by
  -- A character takes up to four bytes, so the induction is on their number.
  induction hlen : bs.length using Nat.strong_induction_on generalizing bs cs with
  | _ len ih =>
    cases bs with
    | nil =>
      cases cs with
      | nil => rfl
      | cons c cs => simp [pieces] at h
    | cons b r =>
      have hrest : ∀ {r' cs'}, r'.length < len → pieces none r' = cs'.map .char → encode cs' = r' :=
        fun hlt hr => ih _ hlt hr rfl
      simp only [List.length_cons] at hlen
      unfold pieces at h
      rcases begin_cases b.toNat with ⟨hb, hbegin⟩ | hbegin | ⟨a, ha, ha', hb⟩ | ⟨a, ha, hb⟩ |
        ⟨a, ha, hb⟩
      · rw [hbegin] at h
        cases cs with
        | nil => simp at h
        | cons c cs =>
          obtain ⟨hc, hr⟩ := List.cons.inj h
          rw [encode_cons, ← Piece.char.inj hc, encodeChar_one hb, eq_toUInt8 rfl,
            hrest (by omega) hr, List.singleton_append]
      · rw [hbegin] at h
        cases cs <;> simp at h
      · rw [hb, begin_two ha ha'] at h
        obtain ⟨x, r, rfl, hx, hx', hchar, -⟩ := pieces_pending h
        obtain ⟨c, cs, rfl, hc, hr⟩ := hchar (by simp)
        simp only [List.length_cons] at hlen
        rw [encode_cons, hc, encodeChar_two ha ha' hx hx', ← hb, eq_toUInt8 rfl, eq_toUInt8 rfl,
          hrest (by omega) hr]
        rfl
      · rw [hb, begin_three ha] at h
        obtain ⟨x, r, rfl, hx, hx', -, hnext⟩ := pieces_pending h
        obtain ⟨y, r, rfl, hy, hy', hchar, -⟩ := pieces_pending (hnext (by simp))
        obtain ⟨c, cs, rfl, hc, hr⟩ := hchar (by simp)
        simp only [List.length_cons] at hlen
        rw [encode_cons, hc, encodeChar_three ha hx hx' hy hy', ← hb, eq_toUInt8 rfl, eq_toUInt8 rfl,
          eq_toUInt8 rfl, hrest (by omega) hr]
        rfl
      · rw [hb, begin_four ha] at h
        obtain ⟨x, r, rfl, hx, hx', -, hnext⟩ := pieces_pending h
        obtain ⟨y, r, rfl, hy, hy', -, hnext⟩ := pieces_pending (hnext (by simp))
        obtain ⟨z, r, rfl, hz, hz', hchar, -⟩ := pieces_pending (hnext (by simp))
        obtain ⟨c, cs, rfl, hc, hr⟩ := hchar (by simp)
        simp only [List.length_cons] at hlen
        rw [encode_cons, hc, encodeChar_four ha hx hx' hy hy' hz hz', ← hb, eq_toUInt8 rfl,
          eq_toUInt8 rfl, eq_toUInt8 rfl, eq_toUInt8 rfl, hrest (by omega) hr]
        rfl

theorem pieces_of_gather {ps : List Piece} {i : Nat} (h : gather i ps = .ok cs) :
    ps = cs.map .char := by
  induction ps generalizing i cs with
  | nil =>
    cases h
    rfl
  | cons x ps ih =>
    cases x with
    | char c =>
      rw [gather] at h
      cases hr : gather (i + c.utf8Size) ps with
      | error e => simp [hr, Except.map] at h
      | ok cs' =>
        rw [hr] at h
        cases h
        rw [ih hr, List.map_cons]
    | bad w => cases h
    | cut w => cases h

/-- Bytes decode to a text just when they are its bytes. -/
theorem decode?_eq_some : decode? bs = some cs ↔ bs = encode cs := by
  constructor
  · intro h
    unfold decode? decode at h
    cases hg : gather 0 (pieces none bs) with
    | error e => simp [hg, Except.toOption] at h
    | ok cs' =>
      obtain rfl : cs' = cs := by simpa [hg, Except.toOption] using h
      exact (encode_of_pieces (pieces_of_gather hg)).symm
  · rintro rfl
    exact decode_encode cs

theorem decode_eq_ok : decode bs = .ok cs ↔ bs = encode cs := by
  rw [← decode?_eq_some, decode?]
  cases decode bs <;> simp [Except.toOption]

end Resources.Utf8

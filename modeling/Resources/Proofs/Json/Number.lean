import Resources.Proofs.Json.Abreast

/-! Numbers: what is read as one is written as one, and the other way round. -/
namespace Resources.Json

open Scan (Numeral isDigit gatherDigits compose fraction exponentDigits exponent decimals numeral
  isExponentMark)

variable {b r t u : Bytes} {ds : List Nat} {o : Outlook} {positive up : Bool} {n e : Nat} {start : Int}
  {x : Numeral}

/-! ### Digits -/

theorem abreast_digits : Abreast o Scan.digits Scan.digits b (Digits b) := by
  rw [Scan.digits_eq]
  refine (Abreast.taking isDigit).bind fun x r => ?_
  rintro ⟨rfl, hdigit, -, -⟩
  exact .pure ⟨x.1, rfl, hdigit, rfl⟩

theorem digits_of (h : Digits t ds r) (hr : ∀ y ∈ r.head?, isDigit y = false) :
    Scan.digits ⟨t, none⟩ = .ok (ds, ⟨r, none⟩) := by
  obtain ⟨bs, rfl, hbs, rfl⟩ := h
  rw [Scan.digits_eq, Scan.bind_of_ok _ (Scan.taking_of hbs hr)]
  rfl

/-! ### Powers of ten -/

theorem ofDigits_cons (n d : Nat) (ds : List Nat) : ofDigits n (d :: ds) = ofDigits (n * 10 + d) ds :=
  rfl

theorem le_ofDigits (n : Nat) (ds : List Nat) : n ≤ ofDigits n ds := by
  induction ds generalizing n with
  | nil => exact Nat.le_refl n
  | cons d ds ih =>
    have hd : n ≤ n * 10 + d := by omega
    exact Nat.le_trans hd (ih _)

theorem abreast_fraction : Abreast o (fraction positive n start) (fraction positive n start) b
    fun x r => r = b ∧ (compose n.toUInt64.toFloat 8 start).map (Scan.realNumeral positive) = some x := by
  unfold fraction
  cases compose n.toUInt64.toFloat 8 start with
  | some y => exact .pure ⟨rfl, rfl⟩
  | none => exact .fail _ _

theorem Digits.cons {y : UInt8} (hy : isDigit y = true) (h : Digits t ds r) :
    Digits (y :: t) ((y.toNat - 0x30) :: ds) r := by
  obtain ⟨bs, rfl, hbs, rfl⟩ := h
  exact ⟨y :: bs, rfl, by simpa using ⟨hy, hbs⟩, rfl⟩

theorem Digits.nil (t : Bytes) : Digits t [] t := ⟨[], rfl, by simp, rfl⟩

theorem discard_bind {α β : Type} (m : Scan α) (k : Unit → Scan β) :
    (discard m >>= k) = m >>= fun _ => k () := by
  change ((fun _ => ()) <$> m) >>= k = _
  rw [bind_map_left]

/-- While the power is below the limit, all that is read of it counts. -/
theorem abreast_exponentDigits {fuel : Nat} (k : Nat) (hb : b.length < fuel)
    (he : e < Nat.pow 2 31) :
    Abreast o (exponentDigits positive up n start fuel e)
      (exponentDigits positive up n start (fuel + k) e) b
      fun x r => ∃ ds, Digits b ds r ∧ scaled? positive n start up (ofDigits e ds) = some x := by
  induction fuel generalizing b e with
  | zero => omega
  | succ fuel ih =>
    have hdone : ∀ {b : Bytes}, Abreast o
        (fraction positive n (if up then start + e else start - e))
        (fraction positive n (if up then start + e else start - e)) b
        fun x r => ∃ ds, Digits b ds r ∧ scaled? positive n start up (ofDigits e ds) = some x := by
      intro b
      refine abreast_fraction.mono ?_
      rintro x _ ⟨rfl, hx⟩
      exact ⟨[], .nil _, (if_pos he).trans hx⟩
    rw [Nat.succ_add]
    unfold exponentDigits
    refine Abreast.peek_bind (fun y t hbt => ?_) fun hbt _ => hbt ▸ hdone
    subst hbt
    simp only
    split
    · rename_i hy
      refine Abreast.skip_bind ?_
      split
      · rename_i he'
        refine (ih (by simpa using hb) he').mono ?_
        rintro x r ⟨ds, hds, hx⟩
        exact ⟨_ :: ds, hds.cons hy, hx⟩
      · rename_i he'
        split
        · exact .fail _ _
        · rename_i hzero
          rw [discard_bind]
          refine abreast_digits.bind fun ds r hds => .pure ⟨_ :: ds, hds.cons hy, ?_⟩
          have hlimit : ¬ ofDigits (e * 10 + (y.toNat - 0x30)) ds < Nat.pow 2 31 := fun h =>
            he' (Nat.lt_of_le_of_lt (le_ofDigits _ _) h)
          rw [ofDigits_cons, scaled?, if_neg hlimit, if_neg hzero]
    · exact hdone

theorem fraction_of (hx : (compose n.toUInt64.toFloat 8 start).map (Scan.realNumeral positive) = some x)
    (f : Feed) : fraction positive n start f = .ok (x, f) := by
  obtain ⟨y, hy, rfl⟩ := Option.map_eq_some_iff.1 hx
  unfold fraction
  rw [hy]
  rfl

theorem exponentDigits_of {fuel : Nat} (hb : t.length < fuel) (he : e < Nat.pow 2 31)
    (h : Digits t ds r) (hr : ∀ y ∈ r.head?, isDigit y = false)
    (hx : scaled? positive n start up (ofDigits e ds) = some x) :
    exponentDigits positive up n start fuel e ⟨t, none⟩ = .ok (x, ⟨r, none⟩) := by
  obtain ⟨bs, rfl, hbs, rfl⟩ := h
  induction bs generalizing fuel e with
  | nil =>
    have hdone := fraction_of ((if_pos he).symm.trans hx) ⟨r, none⟩
    cases fuel with
    | zero => omega
    | succ fuel =>
      unfold exponentDigits
      rw [List.nil_append, Scan.bind_of_ok _ (Scan.peek_of r)]
      cases r with
      | nil => exact hdone
      | cons y r =>
        simp only [List.head?_cons, hr y rfl, Bool.false_eq_true, if_false]
        exact hdone
  | cons y bs ih =>
    cases fuel with
    | zero => omega
    | succ fuel =>
      have hy := hbs y List.mem_cons_self
      have hbs := fun z hz => hbs z (List.mem_cons_of_mem y hz)
      rw [List.map_cons, ofDigits_cons] at hx
      unfold exponentDigits
      rw [Scan.bind_of_ok _ (Scan.peek_of _)]
      simp only [List.cons_append, List.head?_cons, hy, if_true]
      change (if _ then _ else _ : Scan Numeral) ⟨bs ++ r, none⟩ = _
      split
      · rename_i he'
        exact ih he' (by simpa using hb) hbs hx
      · rename_i he'
        have hlimit : ¬ ofDigits (e * 10 + (y.toNat - 0x30)) (bs.map fun y => y.toNat - 0x30) <
            Nat.pow 2 31 := fun h => he' (Nat.lt_of_le_of_lt (le_ofDigits _ _) h)
        rw [scaled?, if_neg hlimit] at hx
        split at hx
        · cases hx
        · rename_i hzero
          rw [if_neg hzero, discard_bind, Scan.bind_of_ok _ (digits_of ⟨bs, rfl, hbs, rfl⟩ hr),
            ← Option.some.inj hx]
          rfl

/-- A power in front, and what it makes of a significand. -/
def Scaled (positive : Bool) (n : Nat) (start : Int) (b : Bytes) (x : Numeral) (r : Bytes) : Prop :=
  ∃ up power, Power b up power r ∧ scaled? positive n start up (ofDigits 0 power) = some x

theorem scaled?_none : scaled? positive n start true (ofDigits 0 []) =
    (compose n.toUInt64.toFloat 8 start).map (Scan.realNumeral positive) := by
  simp [scaled?, ofDigits]

theorem abreast_unscaled : Abreast o (fraction positive n start) (fraction positive n start) b
    (Scaled positive n start b) := by
  refine abreast_fraction.mono ?_
  rintro x r ⟨rfl, hx⟩
  exact ⟨true, [], Or.inl ⟨rfl, rfl, rfl⟩, scaled?_none.trans hx⟩

/-- The digits of a power. -/
def powerDigits (positive : Bool) (n : Nat) (start : Int) (up : Bool) : Scan Numeral := do
  match ← Scan.next with
  | none => Scan.fail .endInValue .taken
  | some y =>
    if isDigit y then
      exponentDigits positive up n start (← get).rest.length.succ (y.toNat - 0x30)
    else Scan.fail .badNumber .taken

theorem exponent_eq (positive : Bool) (n : Nat) (start : Int) : exponent positive n start =
    Scan.skip >>= fun _ => Scan.peek >>= fun
      | some 0x2B => Scan.skip >>= fun _ => powerDigits positive n start true
      | some 0x2D => Scan.skip >>= fun _ => powerDigits positive n start false
      | _ => powerDigits positive n start true := rfl

theorem digit_lt (y : UInt8) : y.toNat - 0x30 < Nat.pow 2 31 :=
  Nat.lt_of_le_of_lt (Nat.sub_le _ _) (Nat.lt_trans y.toNat_lt (by decide))

theorem abreast_powerDigits : Abreast o (powerDigits positive n start up)
    (powerDigits positive n start up) b fun x r => ∃ ds, ds ≠ [] ∧ Digits b ds r ∧
      scaled? positive n start up (ofDigits 0 ds) = some x := by
  refine Abreast.next_bind (fun y t hb => ?_) fun _ _ => .fail _ _
  subst hb
  simp only
  split
  · rename_i hy
    refine Abreast.get_bind ?_
    simp only [o.fuel]
    refine (abreast_exponentDigits _ (Nat.lt_succ_self _) (digit_lt y)).mono ?_
    rintro x r ⟨ds, hds, hx⟩
    refine ⟨_ :: ds, by simp, hds.cons hy, ?_⟩
    rw [ofDigits_cons]
    simpa using hx
  · exact .fail _ _

theorem abreast_exponent {mark : UInt8} (hm : mark = 0x65 ∨ mark = 0x45) :
    Abreast o (exponent positive n start) (exponent positive n start) (mark :: b)
      fun x r => ∃ up power, power ≠ [] ∧ Power (mark :: b) up power r ∧
        scaled? positive n start up (ofDigits 0 power) = some x := by
  rw [exponent_eq]
  have hdigits {up : Bool} {t : Bytes} (hup : PowerSign b up t) :
      Abreast o (powerDigits positive n start up) (powerDigits positive n start up) t
        fun x r => ∃ up power, power ≠ [] ∧ Power (mark :: b) up power r ∧
          scaled? positive n start up (ofDigits 0 power) = some x := by
    refine abreast_powerDigits.mono ?_
    rintro x r ⟨ds, hne, hds, hx⟩
    exact ⟨up, ds, hne, Or.inr ⟨mark, b, t, rfl, hm, hup, hne, hds⟩, hx⟩
  refine Abreast.skip_bind (Abreast.peek_bind (fun y t hb => ?_) fun hb _ => ?_)
  · subst hb
    split
    · rename_i hy
      obtain rfl := Option.some.inj hy
      exact Abreast.skip_bind (hdigits (Or.inl ⟨rfl, Or.inl rfl⟩))
    · rename_i hy
      obtain rfl := Option.some.inj hy
      exact Abreast.skip_bind (hdigits (Or.inr ⟨rfl, rfl⟩))
    · exact hdigits (Or.inl ⟨rfl, Or.inr rfl⟩)
  · subst hb
    exact hdigits (Or.inl ⟨rfl, Or.inr rfl⟩)

theorem isExponentMark_iff {y : UInt8} : isExponentMark (some y) = true ↔ y = 0x65 ∨ y = 0x45 := by
  simp [isExponentMark]

theorem abreast_decimals {y : UInt8} : Abreast o (decimals positive n start) (decimals positive n start)
    (y :: b) fun x r => ∃ ds u, ds ≠ [] ∧ Digits b ds u ∧ Scaled positive (gatherDigits n ds).1
      (start - (ds.length - (gatherDigits n ds).2 : Nat)) u x r := by
  unfold decimals
  refine Abreast.skip_bind (abreast_digits.bind fun ds u hds => ?_)
  split
  · exact Abreast.peek_bind (fun y t hb => .fail _ _) fun hb _ => .fail _ _
  · rename_i hne
    have hne : ds ≠ [] := by simpa using hne
    refine Abreast.mono (G := Scaled positive (gatherDigits n ds).1
      (start - (ds.length - (gatherDigits n ds).2 : Nat)) u) ?_ fun x r hx => ⟨ds, u, hne, hds, hx⟩
    refine Abreast.peek_bind (fun y t hb => ?_) fun hb _ => ?_
    · subst hb
      split
      · rename_i hy
        exact (abreast_exponent (isExponentMark_iff.1 hy)).mono fun x r ⟨up, power, _, h⟩ =>
          ⟨up, power, h⟩
      · exact abreast_unscaled
    · subst hb
      exact abreast_unscaled

/-! ### Numerals -/

theorem gatherDigits_cons {d : Nat} (hd : d < Nat.pow 2 31) (ds : List Nat) :
    gatherDigits 0 (d :: ds) = gatherDigits d ds := by
  have hd : d < Nat.pow 2 64 := Nat.lt_trans hd (by decide)
  rw [gatherDigits, Nat.zero_mul, Nat.zero_add, if_pos hd]

/-- The whole part of a number. -/
def wholeDigits : Scan (List Nat) := do
  match ← Scan.next with
  | none => Scan.fail .endInValue .taken
  | some y =>
    if ¬ isDigit y then Scan.fail .badNumber .taken
    else if y = 0x30 then
      match ← Scan.peek with
      | some z => if isDigit z then Scan.fail .badNumber .next else pure [0]
      | none => pure [0]
    else return (y.toNat - 0x30) :: (← Scan.digits)

/-- A number that ends with its whole part, of which so many digits are left out. -/
def wholeAlone (positive : Bool) (n dropped : Nat) : Scan Numeral :=
  if dropped ≠ 0 then fraction positive n dropped
  else if positive then pure (.whole n)
  else if n = 0 ∨ Nat.pow 2 63 < n then pure (Scan.realNumeral false n.toUInt64.toFloat)
  else pure (.whole (-n))

/-- What follows the whole part. -/
def behindWhole (positive : Bool) (n dropped : Nat) : Scan Numeral := do
  match ← Scan.peek with
  | some 0x2E => decimals positive n dropped
  | some 0x65 | some 0x45 => exponent positive n dropped
  | _ => wholeAlone positive n dropped

theorem numeral_eq (positive : Bool) : numeral positive = wholeDigits >>= fun ds =>
    behindWhole positive (gatherDigits 0 ds).1 (gatherDigits 0 ds).2 := by
  have hwhole {d : Nat} (hd : d < Nat.pow 2 31) (ds : List Nat) :
      (pure (d :: ds) >>= fun ds =>
        behindWhole positive (gatherDigits 0 ds).1 (gatherDigits 0 ds).2) =
      behindWhole positive (gatherDigits d ds).1 (gatherDigits d ds).2 := by
    rw [pure_bind, gatherDigits_cons hd]
  unfold numeral wholeDigits
  rw [bind_assoc]
  refine bind_congr fun y => ?_
  cases y with
  | none => rfl
  | some y =>
    simp only
    split
    · rfl
    · split
      · rename_i hy
        have hzero : y.toNat - 0x30 = 0 := by rw [hy]; decide
        rw [bind_assoc]
        refine bind_congr fun z => ?_
        cases z with
        | none =>
          rw [hwhole (by decide), hzero, pure_bind]
          generalize gatherDigits 0 [] = p
          rfl
        | some z =>
          simp only
          split
          · rw [Scan.fail_bind, Scan.fail_bind]
          · rw [hwhole (by decide), hzero, pure_bind]
            generalize gatherDigits 0 [] = p
            rfl
      · rw [bind_assoc]
        refine bind_congr fun ds => ?_
        rw [hwhole (digit_lt y)]
        generalize gatherDigits (y.toNat - 0x30) ds = p
        rfl

theorem isDigit_iff {y : UInt8} : isDigit y = true ↔ 0x30 ≤ y.toNat ∧ y.toNat ≤ 0x39 := by
  simp [isDigit, UInt8.le_iff_toNat_le]

theorem abreast_wholeDigits : Abreast o wholeDigits wholeDigits b (Whole b) := by
  unfold wholeDigits
  refine Abreast.next_bind (fun y t hb => ?_) fun _ _ => .fail _ _
  subst hb
  simp only
  split
  · exact .fail _ _
  · rename_i hy
    have hy : isDigit y = true := by simpa using hy
    split
    · rename_i hzero
      subst hzero
      refine Abreast.peek_bind (fun z t hb => ?_) fun hb _ => ?_
      · subst hb
        simp only
        split
        · exact .fail _ _
        · exact .pure (Or.inl ⟨rfl, rfl⟩)
      · subst hb
        exact .pure (Or.inl ⟨rfl, rfl⟩)
    · rename_i hzero
      refine abreast_digits.bind fun ds r hds => .pure (Or.inr ⟨by simp, ?_, hds.cons hy⟩)
      have hy := isDigit_iff.1 hy
      have hne : y.toNat ≠ 0x30 := fun h => hzero (UInt8.toNat_inj.1 h)
      rw [List.head?_cons, ne_eq, Option.some.injEq]
      omega

theorem meaning?_whole {whole : List Nat} (h : (gatherDigits 0 whole).2 = 0) :
    meaning? positive whole [] up [] =
      if positive then some (.whole (gatherDigits 0 whole).1)
      else if (gatherDigits 0 whole).1 = 0 ∨ Nat.pow 2 63 < (gatherDigits 0 whole).1 then
        some (Scan.realNumeral false (gatherDigits 0 whole).1.toUInt64.toFloat)
      else some (.whole (-(gatherDigits 0 whole).1)) :=
  if_pos ⟨h, rfl, rfl⟩

theorem meaning?_scaled {whole decimals power : List Nat}
    (h : ¬ ((gatherDigits 0 whole).2 = 0 ∧ decimals = [] ∧ power = [])) :
    meaning? positive whole decimals up power =
      scaled? positive (gatherDigits (gatherDigits 0 whole).1 decimals).1
        ((gatherDigits 0 whole).2 -
          (decimals.length - (gatherDigits (gatherDigits 0 whole).1 decimals).2 : Nat))
        up (ofDigits 0 power) :=
  if_neg h

theorem meaning?_unscaled {whole : List Nat} (h : (gatherDigits 0 whole).2 ≠ 0) :
    meaning? positive whole [] true [] =
      (compose (gatherDigits 0 whole).1.toUInt64.toFloat 8 (gatherDigits 0 whole).2).map
        (Scan.realNumeral positive) := by
  rw [meaning?_scaled fun h' => h h'.1, scaled?_none]
  simp [gatherDigits]

theorem wholeAlone_eq (positive : Bool) (whole : List Nat) :
    wholeAlone positive (gatherDigits 0 whole).1 (gatherDigits 0 whole).2 =
      match meaning? positive whole [] true [] with
      | some x => pure x
      | none => Scan.fail .numberOutOfRange .glanced := by
  unfold wholeAlone
  by_cases h : (gatherDigits 0 whole).2 = 0
  · rw [meaning?_whole h, if_neg fun h' => h' h]
    cases positive with
    | true => rfl
    | false =>
      simp only [Bool.false_eq_true, if_false]
      split <;> rfl
  · rw [meaning?_unscaled h, if_pos h]
    unfold fraction
    cases compose (gatherDigits 0 whole).1.toUInt64.toFloat 8 (gatherDigits 0 whole).2 <;> rfl

/-- What stands behind the whole part, and what both together mean. -/
def Behind (positive : Bool) (whole : List Nat) (b : Bytes) (x : Numeral) (r : Bytes) : Prop :=
  ∃ decimals up power u, Decimals b decimals u ∧ Power u up power r ∧
    meaning? positive whole decimals up power = some x

theorem abreast_behindWhole {whole : List Nat} :
    Abreast o (behindWhole positive (gatherDigits 0 whole).1 (gatherDigits 0 whole).2)
      (behindWhole positive (gatherDigits 0 whole).1 (gatherDigits 0 whole).2) b
      (Behind positive whole b) := by
  have halone : Abreast o (wholeAlone positive (gatherDigits 0 whole).1 (gatherDigits 0 whole).2)
      (wholeAlone positive (gatherDigits 0 whole).1 (gatherDigits 0 whole).2) b
      (Behind positive whole b) := by
    rw [wholeAlone_eq]
    cases hx : meaning? positive whole [] true [] with
    | some x => exact .pure ⟨[], true, [], b, Or.inl ⟨rfl, rfl⟩, Or.inl ⟨rfl, rfl, rfl⟩, hx⟩
    | none => exact .fail _ _
  have hexponent {mark : UInt8} {t : Bytes} (hb : b = mark :: t) (hm : mark = 0x65 ∨ mark = 0x45) :
      Abreast o (exponent positive (gatherDigits 0 whole).1 (gatherDigits 0 whole).2)
        (exponent positive (gatherDigits 0 whole).1 (gatherDigits 0 whole).2) (mark :: t)
        (Behind positive whole b) := by
    subst hb
    refine (abreast_exponent hm).mono ?_
    rintro x r ⟨up, power, hne, hp, hx⟩
    refine ⟨[], up, power, mark :: t, Or.inl ⟨rfl, rfl⟩, hp, ?_⟩
    rw [meaning?_scaled fun h => hne h.2.2]
    simpa [gatherDigits] using hx
  refine Abreast.peek_bind (fun y t hb => ?_) fun hb _ => hb ▸ halone
  split
  · rename_i hy
    obtain rfl := Option.some.inj hy
    refine abreast_decimals.mono ?_
    rintro x r ⟨ds, u, hne, hds, up, power, hp, hx⟩
    refine ⟨ds, up, power, u, Or.inr ⟨hne, t, hb, hds⟩, hp, ?_⟩
    rw [meaning?_scaled fun h => hne h.2.1, hx]
  · rename_i hy
    obtain rfl := Option.some.inj hy
    exact hexponent hb (Or.inl rfl)
  · rename_i hy
    obtain rfl := Option.some.inj hy
    exact hexponent hb (Or.inr rfl)
  · exact hb ▸ halone

theorem abreast_numeral : Abreast o (numeral positive) (numeral positive) b (Figures positive b) := by
  rw [numeral_eq]
  refine abreast_wholeDigits.bind fun whole r hw => abreast_behindWhole.mono ?_
  rintro x r ⟨ds, up, power, u, hds, hp, hx⟩
  exact ⟨whole, ds, up, power, _, u, hw, hds, hp, hx⟩

/-! ### Numbers that are written -/

/-- No number goes on here. -/
def Apart (r : Bytes) : Prop :=
  ∀ y ∈ r.head?, isDigit y = false ∧ y ≠ 0x2E ∧ y ≠ 0x65 ∧ y ≠ 0x45

theorem Digits.head (h : Digits t ds r) (hne : ds ≠ []) : ∃ y u, t = y :: u ∧ isDigit y = true ∧
    ∃ ds', ds = (y.toNat - 0x30) :: ds' ∧ Digits u ds' r := by
  obtain ⟨bs, rfl, hbs, rfl⟩ := h
  cases bs with
  | nil => exact absurd rfl hne
  | cons y bs =>
    exact ⟨y, bs ++ r, rfl, hbs y List.mem_cons_self, _, rfl, bs, rfl,
      fun z hz => hbs z (List.mem_cons_of_mem y hz), rfl⟩

theorem Digits.length_lt (h : Digits t ds r) (hne : ds ≠ []) : r.length < t.length := by
  obtain ⟨bs, rfl, -, rfl⟩ := h
  have hbs : 0 < bs.length := by simpa [List.length_pos_iff] using hne
  rw [List.length_append]
  omega

theorem Whole.length_lt (h : Whole t ds r) : r.length < t.length := by
  rcases h with ⟨-, rfl⟩ | ⟨hne, -, h⟩
  · exact Nat.lt_succ_self _
  · exact h.length_lt hne

theorem Decimals.length_le (h : Decimals t ds r) : r.length ≤ t.length := by
  rcases h with ⟨-, rfl⟩ | ⟨hne, u, rfl, h⟩
  · exact Nat.le_refl _
  · exact Nat.le_succ_of_le (Nat.le_of_lt (h.length_lt hne))

theorem Power.length_le (h : Power t up ds r) : r.length ≤ t.length := by
  rcases h with ⟨-, -, rfl⟩ | ⟨mark, u, w, rfl, -, hs, hne, h⟩
  · exact Nat.le_refl _
  · have hdigits := h.length_lt hne
    rcases hs with ⟨-, rfl | rfl⟩ | ⟨-, rfl⟩ <;> simp only [List.length_cons] <;> omega

theorem Figures.length_lt (h : Figures positive t x r) : r.length < t.length := by
  obtain ⟨_, _, _, _, u, w, hwhole, hdecimals, hp, -⟩ := h
  exact Nat.lt_of_le_of_lt (Nat.le_trans hp.length_le hdecimals.length_le) hwhole.length_lt

theorem Figures.head (h : Figures positive t x r) : ∃ y u, t = y :: u ∧ isDigit y = true := by
  obtain ⟨_, _, _, _, u, _, ⟨-, rfl⟩ | ⟨hne, -, h⟩, -⟩ := h
  · exact ⟨0x30, u, rfl, by decide⟩
  · obtain ⟨y, v, rfl, hy, -⟩ := h.head hne
    exact ⟨y, v, rfl, hy⟩

theorem powerDigits_of (h : Digits t ds r) (hne : ds ≠ []) (hr : Apart r)
    (hx : scaled? positive n start up (ofDigits 0 ds) = some x) :
    powerDigits positive n start up ⟨t, none⟩ = .ok (x, ⟨r, none⟩) := by
  obtain ⟨y, u, rfl, hy, ds, rfl, hds⟩ := h.head hne
  rw [ofDigits_cons, Nat.zero_mul, Nat.zero_add] at hx
  unfold powerDigits
  rw [Scan.bind_of_ok _ (Scan.next_cons ..)]
  simp only [hy, if_true]
  exact exponentDigits_of (Nat.lt_succ_self _) (digit_lt y) hds (fun z hz => (hr z hz).1) hx

theorem exponent_of {mark : UInt8} (hs : PowerSign t up u) (h : Digits u ds r) (hne : ds ≠ [])
    (hr : Apart r) (hx : scaled? positive n start up (ofDigits 0 ds) = some x) :
    exponent positive n start ⟨mark :: t, none⟩ = .ok (x, ⟨r, none⟩) := by
  have hdigits : powerDigits positive n start up ⟨u, none⟩ = .ok (x, ⟨r, none⟩) :=
    powerDigits_of h hne hr hx
  rw [exponent_eq, Scan.bind_of_ok _ (Scan.skip_cons ..), Scan.bind_of_ok _ (Scan.peek_of t)]
  rcases hs with ⟨rfl, rfl | rfl⟩ | ⟨rfl, rfl⟩
  · exact hdigits
  · obtain ⟨y, u, rfl, hy, -⟩ := h.head hne
    have hplus : some y ≠ some 0x2B := by rintro ⟨⟩; cases hy
    have hminus : some y ≠ some 0x2D := by rintro ⟨⟩; cases hy
    simp only [List.head?_cons]
    exact hdigits
  · exact hdigits

theorem Power.head (h : Power t up ds r) (hr : Apart r) :
    ∀ y ∈ t.head?, isDigit y = false ∧ y ≠ 0x2E := by
  rcases h with ⟨-, -, rfl⟩ | ⟨mark, u, w, rfl, hm, -⟩
  · exact fun y hy => ⟨(hr y hy).1, (hr y hy).2.1⟩
  · intro y hy
    obtain rfl := Option.some.inj hy
    rcases hm with rfl | rfl <;> decide

theorem decimals_of {y : UInt8} {power : List Nat} (h : Digits t ds u) (hne : ds ≠ [])
    (hp : Power u up power r) (hr : Apart r)
    (hx : scaled? positive (gatherDigits n ds).1 (start - (ds.length - (gatherDigits n ds).2 : Nat))
      up (ofDigits 0 power) = some x) :
    decimals positive n start ⟨y :: t, none⟩ = .ok (x, ⟨r, none⟩) := by
  have hu : ∀ y ∈ u.head?, isDigit y = false := fun y hy => (hp.head hr y hy).1
  have hempty : ¬ ds.isEmpty = true := by simpa using hne
  unfold decimals
  rw [Scan.bind_of_ok _ (Scan.skip_cons ..), Scan.bind_of_ok _ (digits_of h hu), if_neg hempty]
  simp only
  rw [Scan.bind_of_ok _ (Scan.peek_of u)]
  rcases hp with ⟨rfl, rfl, rfl⟩ | ⟨mark, w, v, rfl, hm, hs, hne', hds⟩
  · have hmark : ¬ isExponentMark u.head? = true := by
      cases u with
      | nil => decide
      | cons z u => simpa [isExponentMark_iff] using (hr z rfl).2.2
    rw [if_neg hmark]
    exact fraction_of (scaled?_none.symm.trans hx) _
  · rw [List.head?_cons, if_pos (isExponentMark_iff.2 hm)]
    exact exponent_of hs hds hne' hr hx

theorem wholeDigits_of (h : Whole t ds r) (hr : ∀ y ∈ r.head?, isDigit y = false) :
    wholeDigits ⟨t, none⟩ = .ok (ds, ⟨r, none⟩) := by
  unfold wholeDigits
  rcases h with ⟨rfl, rfl⟩ | ⟨hne, hzero, h⟩
  · rw [Scan.bind_of_ok _ (Scan.next_cons ..)]
    have hdigit : isDigit 0x30 = true := by decide
    simp only [hdigit, not_true_eq_false, if_false, if_true]
    rw [Scan.bind_of_ok _ (Scan.peek_of r)]
    cases r with
    | nil => rfl
    | cons z r =>
      simp only [List.head?_cons, hr z rfl, Bool.false_eq_true, if_false]
      rfl
  · obtain ⟨y, u, rfl, hy, ds, rfl, hds⟩ := h.head hne
    have hy0 : y ≠ 0x30 := by rintro rfl; exact hzero rfl
    rw [Scan.bind_of_ok _ (Scan.next_cons ..)]
    simp only [hy, not_true_eq_false, if_false, hy0]
    rw [Scan.bind_of_ok _ (digits_of hds hr)]
    rfl

theorem behindWhole_of {whole decimals power : List Nat} (hd : Decimals t decimals u)
    (hp : Power u up power r) (hr : Apart r) (hx : meaning? positive whole decimals up power = some x) :
    behindWhole positive (gatherDigits 0 whole).1 (gatherDigits 0 whole).2 ⟨t, none⟩ =
      .ok (x, ⟨r, none⟩) := by
  unfold behindWhole
  rw [Scan.bind_of_ok _ (Scan.peek_of t)]
  rcases hd with ⟨rfl, rfl⟩ | ⟨hne, v, rfl, hds⟩
  · rcases hp with ⟨rfl, rfl, rfl⟩ | ⟨mark, w, v, rfl, hm, hs, hne, hds⟩
    · have hdone : wholeAlone positive (gatherDigits 0 whole).1 (gatherDigits 0 whole).2 ⟨t, none⟩ =
          .ok (x, ⟨t, none⟩) := by
        rw [wholeAlone_eq, hx]
        rfl
      cases t with
      | nil => exact hdone
      | cons z t =>
        obtain ⟨-, hpoint, he, hE⟩ := hr z rfl
        simpa [hpoint, he, hE] using hdone
    · rw [meaning?_scaled fun h => hne h.2.2] at hx
      have hdone : exponent positive (gatherDigits 0 whole).1 (gatherDigits 0 whole).2
          ⟨mark :: w, none⟩ = .ok (x, ⟨r, none⟩) :=
        exponent_of hs hds hne hr (by simpa [gatherDigits] using hx)
      rcases hm with rfl | rfl
      · exact hdone
      · exact hdone
  · rw [meaning?_scaled fun h => hne h.2.1] at hx
    exact decimals_of hds hne hp hr hx

theorem numeral_of (h : Figures positive t x r) (hr : Apart r) :
    numeral positive ⟨t, none⟩ = .ok (x, ⟨r, none⟩) := by
  obtain ⟨whole, decimals, up, power, u, w, hwhole, hdecimals, hp, hx⟩ := h
  have hu : ∀ y ∈ u.head?, isDigit y = false := by
    rcases hdecimals with ⟨-, rfl⟩ | ⟨-, v, rfl, -⟩
    · exact fun y hy => (hp.head hr y hy).1
    · intro y hy
      obtain rfl := Option.some.inj hy
      rfl
  rw [numeral_eq, Scan.bind_of_ok _ (wholeDigits_of hwhole hu)]
  exact behindWhole_of hdecimals hp hr hx

end Resources.Json

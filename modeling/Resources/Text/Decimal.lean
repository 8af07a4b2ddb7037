/-! The fewest decimal digits that read back as a given binary fraction. -/
namespace Resources.Decimal

/-- A double in full: `mantissa * 2 ^ exponent`, and whether the gap below it is half the gap above. -/
structure Dyadic where
  mantissa : Nat
  exponent : Int
  narrowBelow : Bool
  deriving DecidableEq, Repr

/-- The magnitude of a finite double from its bits. -/
def Dyadic.ofBits (bits : UInt64) : Dyadic :=
  let n := bits.toNat
  let fraction : Nat := n % Nat.pow 2 52
  let biased : Nat := n / Nat.pow 2 52 % Nat.pow 2 11
  if biased = 0 then ⟨fraction, -1074, false⟩
  else ⟨Nat.pow 2 52 + fraction, (biased : Int) - 1075, fraction = 0 && 1 < biased⟩

/-- `digits * 10 ^ exponent`. -/
structure Digits where
  digits : Nat
  exponent : Int
  deriving DecidableEq, Repr

/-- Quarters of the unit of `d`, as a fraction scaled by `10 ^ -e`. -/
def scale (d : Dyadic) (e : Int) : Nat × Nat :=
  let num := if 0 ≤ d.exponent then Nat.pow 2 d.exponent.toNat else 1
  let den := if 0 ≤ d.exponent then 1 else Nat.pow 2 (-d.exponent).toNat
  if 0 ≤ e then (num, 4 * den * Nat.pow 10 e.toNat) else (num * Nat.pow 10 (-e).toNat, 4 * den)

/-- Does `c * 10 ^ e` round to `d`? The ends of the interval do when the mantissa is even. -/
def readsBack (d : Dyadic) (e : Int) (c : Nat) : Bool :=
  let (num, den) := scale d e
  let low := (4 * d.mantissa - (if d.narrowBelow then 1 else 2)) * num
  let high := (4 * d.mantissa + 2) * num
  let point := c * den
  if d.mantissa % 2 = 0 then low ≤ point && point ≤ high else low < point && point < high

/-- The multiple of `10 ^ e` that reads back as `d` and lies nearest to it, an even one on a tie. -/
def onGrid (d : Dyadic) (e : Int) : Option Digits :=
  let (num, den) := scale d e
  let value := 4 * d.mantissa * num
  let below := value / den
  let above := below + 1
  match readsBack d e below && 0 < below, readsBack d e above with
  | true, true =>
    let left := value - below * den
    let right := above * den - value
    if left < right then some ⟨below, e⟩
    else if right < left then some ⟨above, e⟩
    else some ⟨if below % 2 = 0 then below else above, e⟩
  | true, false => some ⟨below, e⟩
  | false, true => some ⟨above, e⟩
  | false, false => none

/-- Tries ever finer grids. -/
def refine (d : Dyadic) : Nat → Int → Option Digits
  | 0, _ => none
  | n + 1, e => match onGrid d e with
    | some x => some x
    | none => refine d n (e - 1)

/-- Digits without zeros at their end. -/
def Digits.trim : Nat → Digits → Digits
  | 0, x => x
  | n + 1, x => if x.digits % 10 = 0 ∧ x.digits ≠ 0 then trim n ⟨x.digits / 10, x.exponent + 1⟩ else x

/-- No double needs a grid coarser than `10 ^ 308` or finer than `10 ^ -324`. -/
def shortest (d : Dyadic) : Digits :=
  if d.mantissa = 0 then ⟨0, 0⟩ else ((refine d 640 309).getD ⟨0, 0⟩).trim 20

/-- The text of a finite double: positional where its leading digit stands for `10 ^ -5` to
`10 ^ 15`, always with a fraction; else with an exponent that has a sign and two digits or more. -/
def render (bits : UInt64) : String :=
  let x := shortest (.ofBits bits)
  let digits := toString x.digits
  let count := digits.length
  let lead := x.exponent + count - 1
  let sign := if bits.toNat < Nat.pow 2 63 then "" else "-"
  let body :=
    if x.digits = 0 then "0.0"
    else if -5 ≤ lead ∧ lead ≤ 15 then
      if 0 ≤ x.exponent then digits ++ "".pushn '0' x.exponent.toNat ++ ".0"
      else if 0 ≤ lead then
        .ofList (digits.toList.take (lead.toNat + 1) ++ '.' :: digits.toList.drop (lead.toNat + 1))
      else "0." ++ "".pushn '0' (-lead - 1).toNat ++ digits
    else
      let fraction := if count = 1 then "" else "." ++ .ofList (digits.toList.drop 1)
      let power := toString lead.natAbs
      let padded := if power.length < 2 then "0" ++ power else power
      .ofList (digits.toList.take 1) ++ fraction ++ "e" ++ (if lead < 0 then "-" else "+") ++ padded
  sign ++ body

end Resources.Decimal

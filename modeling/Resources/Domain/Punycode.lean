/-! Punycode: text of any characters, spelled in letters, digits and hyphens. The plain characters
come first; each other is a number that says which character is put where. -/
namespace Resources.Punycode

def digitChar (d : Nat) : Char := Char.ofNat (if d < 26 then 0x61 + d else 0x30 + (d - 26))

def digit? (c : Char) : Option Nat :=
  let n := c.toNat
  if 0x61 ≤ n ∧ n ≤ 0x7A then some (n - 0x61)
  else if 0x41 ≤ n ∧ n ≤ 0x5A then some (n - 0x41)
  else if 0x30 ≤ n ∧ n ≤ 0x39 then some (n - 0x30 + 26)
  else none

/-- The digit from which on a number goes on. -/
def threshold (k bias : Nat) : Nat := if k ≤ bias then 1 else min 26 (k - bias)

theorem threshold_pos (k bias : Nat) : 1 ≤ threshold k bias := by
  unfold threshold
  split <;> omega

def scale (delta k : Nat) : Nat :=
  if 455 < delta then scale (delta / 35) (k + 36) else k + 36 * delta / (delta + 38)
termination_by delta
decreasing_by exact Nat.div_lt_self (by omega) (by omega)

/-- The bias follows the size of the numbers seen. -/
def adapt (delta points : Nat) (first : Bool) : Nat :=
  let delta := if first then delta / 700 else delta / 2
  scale (delta + delta / points) 0

def firstBias : Nat := 72

def firstPoint : Nat := 0x80

def digits (bias k q : Nat) : List Char :=
  let t := threshold k bias
  if q < t then [digitChar q]
  else digitChar (t + (q - t) % (36 - t)) :: digits bias (k + 36) ((q - t) / (36 - t))
termination_by q
decreasing_by
  have := threshold_pos k bias
  exact Nat.lt_of_le_of_lt (Nat.div_le_self _ _) (by omega)

/-- What is written so far, and the distance to the next place. -/
structure Progress where
  text : List Char
  delta : Nat
  bias : Nat
  written : Nat

/-- One character of the text while the characters of one code point are written. -/
def visit (plain point : Nat) (p : Progress) (c : Char) : Progress :=
  if c.toNat < point then { p with delta := p.delta + 1 }
  else if c.toNat = point then
    ⟨p.text ++ digits p.bias 36 p.delta, 0, adapt p.delta (p.written + 1) (p.written = plain),
      p.written + 1⟩
  else p

def visitAll (t : List Char) (plain : Nat) : List Nat → Nat → Progress → Progress
  | [], _, p => p
  | point :: r, least, p =>
    let p := { p with delta := p.delta + (point - least) * (p.written + 1) }
    let p := t.foldl (visit plain point) p
    visitAll t plain r (point + 1) { p with delta := p.delta + 1 }

def isPlain (c : Char) : Bool := c.toNat < firstPoint

def encode (t : List Char) : List Char :=
  let plain := t.filter isPlain
  let points := ((t.filter (!isPlain ·)).map Char.toNat).mergeSort.eraseDups
  let start : Progress :=
    ⟨if plain = [] then [] else plain ++ ['-'], 0, firstBias, plain.length⟩
  (visitAll t plain.length points firstPoint start).text

/-- A number and the text behind it. -/
def number? (bias : Nat) : Nat → Nat → Nat → List Char → Option (Nat × List Char)
  | _, _, _, [] => none
  | k, weight, n, c :: r => do
    let d ← digit? c
    let t := threshold k bias
    if d < t then some (n + d * weight, r)
    else number? bias (k + 36) (weight * (36 - t)) (n + d * weight) r

def insertAll : Nat → List Char → Nat → Nat → Nat → List Char → Option (List Char)
  | _, out, _, _, _, [] => some out
  | 0, _, _, _, _, _ => none
  | fuel + 1, out, point, place, bias, t => do
    let (delta, rest) ← number? bias 36 1 0 t
    let size := out.length + 1
    let point := point + (place + delta) / size
    let next := (place + delta) % size
    guard point.isValidChar
    let out := out.take next ++ Char.ofNat point :: out.drop next
    insertAll fuel out point (next + 1) (adapt delta size (place = 0)) rest

/-- The last hyphen ends the plain characters. -/
def decode? (t : List Char) : Option (List Char) :=
  let numbers := (t.reverse.takeWhile (· ≠ '-')).reverse
  let plain := t.take (t.length - numbers.length - 1)
  if plain = [] then insertAll t.length [] firstPoint 0 firstBias t
  else insertAll t.length plain firstPoint 0 firstBias numbers

end Resources.Punycode

/-! Numeric hosts: IPv4 and IPv6 addresses as numbers and as text. -/
namespace Resources

namespace Ipv4

def digit? (radix : Nat) (c : Char) : Option Nat :=
  let n := c.toNat
  let v? := if 0x30 ≤ n ∧ n ≤ 0x39 then some (n - 0x30)
    else if 0x61 ≤ n ∧ n ≤ 0x66 then some (n - 0x57)
    else if 0x41 ≤ n ∧ n ≤ 0x46 then some (n - 0x37)
    else none
  v?.filter (· < radix)

def digits? (radix : Nat) (s : List Char) : Option Nat :=
  s.foldlM (fun n c => (digit? radix c).map (n * radix + ·)) 0

/-- Decimal; hexadecimal after `0x`, octal after `0`. A mark alone is zero. -/
def number? : List Char → Option Nat
  | [] => none
  | '0' :: c :: r => if c = 'x' ∨ c = 'X' then digits? 16 r else digits? 8 (c :: r)
  | s => digits? 10 s

def parts (host : List Char) : List (List Char) :=
  let ps := host.splitOn '.'
  if ps.getLast? = some [] then ps.dropLast else ps

/-- Such a host is an address or nothing. -/
def isNumeric (host : List Char) : Bool :=
  match (parts host).getLast? with
  | some p => (p ≠ [] && p.all Char.isDigit) || (number? p).isSome
  | none => false

/-- The last part fills the bytes that the others leave. -/
def ofParts? (ns : List Nat) : Option Nat :=
  match ns.reverse with
  | [] => none
  | last :: above =>
    if 4 < ns.length ∨ Nat.pow 256 (4 - above.length) ≤ last ∨ above.any (255 < ·) then none
    else some (above.reverse.zipIdx.foldl (fun sum (n, i) => sum + n * Nat.pow 256 (3 - i)) last)

def parse? (host : List Char) : Option Nat := do ofParts? (← (parts host).mapM number?)

def text (address : Nat) : List Char :=
  List.intercalate ['.'] ([3, 2, 1, 0].map fun i => Nat.toDigits 10 (address / Nat.pow 256 i % 256))

/-- Four decimal bytes and nothing else. -/
def strict? (s : List Char) : Option (List Nat) :=
  let byte? (p : List Char) : Option Nat := do
    guard (p ≠ [] ∧ p.all Char.isDigit ∧ (p.length = 1 ∨ p.head? ≠ some '0'))
    (digits? 10 p).filter (· < 256)
  match s.splitOn '.' with
  | [a, b, c, d] => [a, b, c, d].mapM byte?
  | _ => none

end Ipv4

namespace Ipv6

/-- Up to four hex digits. -/
def piece? (p : List Char) : Option Nat :=
  if p = [] ∨ 4 < p.length then none else Ipv4.digits? 16 p

/-- Pieces between colons. The last may be an IPv4 address, which makes two. -/
def pieces? : List (List Char) → Option (List Nat)
  | [] => some []
  | [p] =>
    match piece? p with
    | some n => some [n]
    | none => (Ipv4.strict? p).map fun
      | [a, b, c, d] => [a * 256 + b, c * 256 + d]
      | ns => ns
  | p :: r => do return (← piece? p) :: (← pieces? r)

/-- The pieces before a gap and those after it. -/
def halves : List Char → List Char × Option (List Char)
  | ':' :: ':' :: r => ([], some r)
  | c :: r => let (a, b) := halves r; (c :: a, b)
  | [] => ([], none)

def half? (s : List Char) : Option (List Nat) := if s = [] then some [] else pieces? (s.splitOn ':')

/-- A gap stands for one zero or more. -/
def parse? (s : List Char) : Option (List Nat) := do
  match halves s with
  | (a, none) => (half? a).filter (·.length = 8)
  | (a, some b) =>
    guard ('.' ∉ a)
    let a ← half? a
    let b ← half? b
    guard (a.length + b.length < 8)
    pure (a ++ List.replicate (8 - a.length - b.length) 0 ++ b)

/-- Where the zeros at the head of a list end. -/
def zeros (ns : List Nat) : Nat := (ns.takeWhile (· = 0)).length

/-- The start and length of the first longest run of zeros. -/
def longestGap (ns : List Nat) : Nat × Nat :=
  (List.range ns.length).foldl (fun best i =>
    let n := zeros (ns.drop i)
    if best.2 < n then (i, n) else best) (0, 0)

def pieceTexts (ns : List Nat) : List Char := List.intercalate [':'] (ns.map (Nat.toDigits 16))

/-- The first longest run of two or more zeros is left out. -/
def text (ns : List Nat) : List Char :=
  let (start, length) := longestGap ns
  if length < 2 then pieceTexts ns
  else pieceTexts (ns.take start) ++ [':', ':'] ++ pieceTexts (ns.drop (start + length))

end Ipv6

end Resources

/-! Text as bytes. Decoding cuts a byte string into characters and faults, one byte at a time. -/
namespace Resources

abbrev Bytes := List UInt8

namespace Utf8

/-- The bytes of one character. -/
def encodeChar (c : Char) : Bytes :=
  let n := c.toNat
  if n < 0x80 then [n.toUInt8]
  else if n < 0x800 then [(0xC0 + n / 0x40).toUInt8, (0x80 + n % 0x40).toUInt8]
  else if n < 0x10000 then
    [(0xE0 + n / 0x1000).toUInt8, (0x80 + n / 0x40 % 0x40).toUInt8, (0x80 + n % 0x40).toUInt8]
  else
    [(0xF0 + n / 0x40000).toUInt8, (0x80 + n / 0x1000 % 0x40).toUInt8,
      (0x80 + n / 0x40 % 0x40).toUInt8, (0x80 + n % 0x40).toUInt8]

def encode (cs : List Char) : Bytes := cs.flatMap encodeChar

/-- A decoded character, a faulty sequence that another byte cut short, or one that the end cut. -/
inductive Piece where
  | char (c : Char)
  | bad (width : Nat)
  | cut (width : Nat)
  deriving DecidableEq, Repr

/-- An unfinished sequence: bytes seen, bytes owed, bounds of the next byte, bits gathered. -/
structure Pending where
  seen : Nat
  owed : Nat
  low : Nat
  high : Nat
  value : Nat
  deriving DecidableEq, Repr

/-- The first byte of a sequence is a whole character, a fault, or a lead that owes more. -/
def begin (b : Nat) : Piece ⊕ Pending :=
  if b < 0x80 then .inl (.char (Char.ofNat b))
  else if 0xC2 ≤ b ∧ b ≤ 0xDF then .inr ⟨1, 1, 0x80, 0xBF, b - 0xC0⟩
  else if b = 0xE0 then .inr ⟨1, 2, 0xA0, 0xBF, 0⟩
  else if b = 0xED then .inr ⟨1, 2, 0x80, 0x9F, 0xD⟩
  else if 0xE1 ≤ b ∧ b ≤ 0xEF then .inr ⟨1, 2, 0x80, 0xBF, b - 0xE0⟩
  else if b = 0xF0 then .inr ⟨1, 3, 0x90, 0xBF, 0⟩
  else if 0xF1 ≤ b ∧ b ≤ 0xF3 then .inr ⟨1, 3, 0x80, 0xBF, b - 0xF0⟩
  else if b = 0xF4 then .inr ⟨1, 3, 0x80, 0x8F, 4⟩
  else .inl (.bad 1)

/-- A byte outside the bounds ends the sequence before it and begins one of its own. -/
def pieces : Option Pending → Bytes → List Piece
  | none, [] => []
  | some p, [] => [.cut p.seen]
  | none, b :: r =>
    match begin b.toNat with
    | .inl x => x :: pieces none r
    | .inr p => pieces (some p) r
  | some p, b :: r =>
    if p.low ≤ b.toNat ∧ b.toNat ≤ p.high then
      let value := p.value * 0x40 + (b.toNat - 0x80)
      if p.owed ≤ 1 then .char (Char.ofNat value) :: pieces none r
      else pieces (some ⟨p.seen + 1, p.owed - 1, 0x80, 0xBF, value⟩) r
    else
      .bad p.seen :: match begin b.toNat with
        | .inl x => x :: pieces none r
        | .inr q => pieces (some q) r

/-- Where decoding stopped; the width is unknown when the text just ended too early. -/
structure Malformed where
  validUpTo : Nat
  width : Option Nat
  deriving DecidableEq, Repr

def Malformed.message (m : Malformed) : String :=
  match m.width with
  | some w => s!"invalid utf-8 sequence of {w} bytes from index {m.validUpTo}"
  | none => s!"incomplete utf-8 byte sequence from index {m.validUpTo}"

/-- The characters of the pieces, or the first fault and the index where it begins. -/
def gather (index : Nat) : List Piece → Except Malformed (List Char)
  | [] => .ok []
  | .char c :: r => (gather (index + c.utf8Size) r).map (c :: ·)
  | .bad w :: _ => .error ⟨index, some w⟩
  | .cut _ :: _ => .error ⟨index, none⟩

def decode (b : Bytes) : Except Malformed (List Char) := gather 0 (pieces none b)

def decode? (b : Bytes) : Option (List Char) := (decode b).toOption

/-- Every fault becomes one replacement character. -/
def decodeLossy (b : Bytes) : List Char :=
  (pieces none b).map fun
    | .char c => c
    | .bad _ | .cut _ => '\ufffd'

end Utf8

/-- The bytes of a text. -/
def utf8 (s : String) : Bytes := Utf8.encode s.toList

end Resources

import Resources.Text.Utf8

/-! Percent encoding. Each part of a URL has its own set of bytes that are spelled out. -/
namespace Resources.Percent

/-- Bytes that are spelled out in any part. -/
def control (b : UInt8) : Bool := b < 0x20 || 0x7E < b

def among (chars : List Char) (b : UInt8) : Bool := chars.any fun c => c.toNat == b.toNat

def fragmentSet (b : UInt8) : Bool := control b || among [' ', '"', '<', '>', '\x60'] b

def querySet (b : UInt8) : Bool := control b || among [' ', '"', '#', '<', '>'] b

def specialQuerySet (b : UInt8) : Bool := querySet b || among ['\''] b

def pathSet (b : UInt8) : Bool := querySet b || among ['?', '\x60', '\x7b', '\x7d'] b

def userinfoSet (b : UInt8) : Bool :=
  pathSet b || among ['/', ':', ';', '=', '@', '[', '\\', ']', '^', '|'] b

/-- For a name that must stay one segment of a path. -/
def nameSet (b : UInt8) : Bool := pathSet b || among ['/', '%', '\\'] b

def digit (n : Nat) : Char := Char.ofNat (if n < 10 then 0x30 + n else 0x37 + n)

def encodeByte (set : UInt8 → Bool) (b : UInt8) : List Char :=
  if set b then ['%', digit (b.toNat / 16), digit (b.toNat % 16)] else [Char.ofNat b.toNat]

def encodeBytes (set : UInt8 → Bool) (b : Bytes) : List Char := b.flatMap (encodeByte set)

def encode (set : UInt8 → Bool) (t : List Char) : List Char := encodeBytes set (Utf8.encode t)

def value? (b : UInt8) : Option UInt8 :=
  if 0x30 ≤ b && b ≤ 0x39 then some (b - 0x30)
  else if 0x41 ≤ b && b ≤ 0x46 then some (b - 0x37)
  else if 0x61 ≤ b && b ≤ 0x66 then some (b - 0x57)
  else none

/-- A percent sign without two hex digits behind it stands for itself. -/
def decodeBytes : Bytes → Bytes
  | [] => []
  | b :: x :: y :: r =>
    if b = 0x25 then
      match value? x, value? y with
      | some x, some y => (x * 16 + y) :: decodeBytes r
      | _, _ => b :: decodeBytes (x :: y :: r)
    else b :: decodeBytes (x :: y :: r)
  | b :: r => b :: decodeBytes r

def decode (t : List Char) : Bytes := decodeBytes (Utf8.encode t)

end Resources.Percent

import Resources.Json.Failure

/-! Reading JSON from bytes that end, or that stop in a fault: blanks, words, numbers, texts. -/
namespace Resources.Json

/-- Bytes still to come, and the fault in place of an end if there is one. -/
structure Feed where
  rest : Bytes
  ending : Option Fault
  deriving DecidableEq, Repr

abbrev Scan := StateT Feed (Except Stop)

namespace Scan

def fail {α : Type} (cause : Cause) (reach : Reach) : Scan α := fun f =>
  .error ⟨cause, true, reach, f.rest⟩

/-- A refusal whose place an enclosing value settles. -/
def object {α : Type} (cause : Cause) (reach : Reach) : Scan α := fun f =>
  .error ⟨cause, false, reach, f.rest⟩

/-- The next byte, left where it is. A fault ends the reading. One of kind `interrupted` would end it
too, where it should be tried again; no source has it. -/
def peek : Scan (Option UInt8) := fun f =>
  match f.rest, f.ending with
  | b :: _, _ => .ok (some b, f)
  | [], none => .ok (none, f)
  | [], some x => .error ⟨.fault x, false, .taken, []⟩

def skip : Scan Unit := fun f => .ok ((), { f with rest := f.rest.drop 1 })

def next : Scan (Option UInt8) := do
  let b ← peek
  skip
  pure b

def isBlank (b : UInt8) : Bool := b = 0x20 || b = 0x0A || b = 0x09 || b = 0x0D

/-- The next byte that is not blank, left where it is. -/
def upcoming : Scan (Option UInt8) := do
  modify fun f => { f with rest := f.rest.dropWhile isBlank }
  peek

/-- The rest of a literal word whose first letter is taken. -/
def word : List UInt8 → Scan Unit
  | [] => pure ()
  | b :: r => do
    match ← next with
    | none => fail .endInValue .taken
    | some c => if c = b then word r else fail .identDue .taken

def isDigit (b : UInt8) : Bool := 0x30 ≤ b && b ≤ 0x39

/-- All digits that come next. -/
def digits : Scan (List Nat) := do
  let f ← get
  set { f with rest := f.rest.dropWhile isDigit }
  let _ ← peek
  pure ((f.rest.takeWhile isDigit).map fun b => b.toNat - 0x30)

/-- Digits are gathered while 64 bits hold them; the rest is counted. -/
def gatherDigits (significand : Nat) : List Nat → Nat × Nat
  | [] => (significand, 0)
  | d :: r =>
    if significand * 10 + d < Nat.pow 2 64 then gatherDigits (significand * 10 + d) r
    else (significand, r.length + 1)

/-- `significand * 10 ^ exponent` in doubles, in steps of `10 ^ 308`; none when it is too large. -/
def compose (significand : Float) : Nat → Int → Option Float
  | 0, _ => some significand
  | n + 1, exponent =>
    if exponent.natAbs ≤ 308 then
      let power := Float.ofScientific 1 false exponent.natAbs
      if 0 ≤ exponent then
        let product := significand * power
        if product.isInf then none else some product
      else some (significand / power)
    else if significand == 0 then some significand
    else if 0 ≤ exponent then none
    else compose (significand / Float.ofScientific 1 false 308) n (exponent + 308)

/-- A number as written, before it is held as a whole number or a double. -/
inductive Numeral where
  | whole (n : Int)
  | real (bits : UInt64)
  deriving DecidableEq, Repr

def realNumeral (positive : Bool) (x : Float) : Numeral := .real (if positive then x else -x).toBits

def fraction (positive : Bool) (significand : Nat) (exponent : Int) : Scan Numeral := do
  match compose significand.toUInt64.toFloat 8 exponent with
  | some x => pure (realNumeral positive x)
  | none => fail .numberOutOfRange .glanced

/-- The digits of an exponent after the first. Beyond 31 bits the number is zero or too large. -/
def exponentDigits (positive up : Bool) (significand : Nat) (start : Int) : Nat → Nat → Scan Numeral
  | 0, e => fraction positive significand (if up then start + e else start - e)
  | n + 1, e => do
    match ← peek with
    | some b =>
      if isDigit b then
        skip
        let e' := e * 10 + (b.toNat - 0x30)
        if e' < Nat.pow 2 31 then exponentDigits positive up significand start n e'
        else if significand ≠ 0 && up then fail .numberOutOfRange .taken
        else
          discard digits
          pure (realNumeral positive 0)
      else fraction positive significand (if up then start + e else start - e)
    | none => fraction positive significand (if up then start + e else start - e)

/-- After `e` or `E`. -/
def exponent (positive : Bool) (significand : Nat) (start : Int) : Scan Numeral := do
  skip
  let up ← do
    match ← peek with
    | some 0x2B => skip; pure true
    | some 0x2D => skip; pure false
    | _ => pure true
  match ← next with
  | none => fail .endInValue .taken
  | some b =>
    if isDigit b then
      exponentDigits positive up significand start (← get).rest.length.succ (b.toNat - 0x30)
    else fail .badNumber .taken

def isExponentMark (b : Option UInt8) : Bool := b == some 0x65 || b == some 0x45

/-- After the point. -/
def decimals (positive : Bool) (significand : Nat) (start : Int) : Scan Numeral := do
  skip
  let ds ← digits
  if ds.isEmpty then
    match ← peek with
    | some _ => fail .badNumber .next
    | none => fail .endInValue .next
  else
    let (significand, dropped) := gatherDigits significand ds
    let start := start - (ds.length - dropped : Nat)
    if isExponentMark (← peek) then exponent positive significand start
    else fraction positive significand start

/-- A number after its sign. -/
def numeral (positive : Bool) : Scan Numeral := do
  match ← next with
  | none => fail .endInValue .taken
  | some b =>
    if ¬ isDigit b then fail .badNumber .taken
    else
      let ds ← if b = 0x30 then
          match ← peek with
          | some c => if isDigit c then fail .badNumber .next else pure []
          | none => pure []
        else digits
      let (significand, dropped) := gatherDigits (b.toNat - 0x30) ds
      match ← peek with
      | some 0x2E => decimals positive significand dropped
      | some 0x65 | some 0x45 => exponent positive significand dropped
      | _ =>
        if dropped ≠ 0 then fraction positive significand dropped
        else if positive then pure (.whole significand)
        else if significand = 0 ∨ Nat.pow 2 63 < significand then
          pure (realNumeral false significand.toUInt64.toFloat)
        else pure (.whole (-significand))

/-- A byte of a text that must be there. -/
def textByte : Scan UInt8 := do
  match ← next with
  | some b => pure b
  | none => fail .endInText .taken

def hexValue (b : UInt8) : Option Nat :=
  if isDigit b then some (b.toNat - 0x30)
  else if 0x61 ≤ b ∧ b ≤ 0x66 then some (b.toNat - 0x57)
  else if 0x41 ≤ b ∧ b ≤ 0x46 then some (b.toNat - 0x37)
  else none

/-- The four digits of a hex escape. -/
def fourHex : Scan Nat := do
  let a ← textByte
  let b ← textByte
  let c ← textByte
  let d ← textByte
  match hexValue a, hexValue b, hexValue c, hexValue d with
  | some a, some b, some c, some d => pure (((a * 16 + b) * 16 + c) * 16 + d)
  | _, _, _, _ => fail .badEscape .taken

/-- The byte that goes on with a surrogate pair. -/
def pairByte (due : UInt8) : Scan Unit := do
  match ← peek with
  | none => fail .endInText .taken
  | some b =>
    skip
    if b = due then pure () else fail .hexEscapeCutShort .taken

/-- The bytes that an escape stands for, after its backslash. -/
def escaped : Scan Bytes := do
  match ← textByte with
  | 0x22 => pure [0x22]
  | 0x5C => pure [0x5C]
  | 0x2F => pure [0x2F]
  | 0x62 => pure [0x08]
  | 0x66 => pure [0x0C]
  | 0x6E => pure [0x0A]
  | 0x72 => pure [0x0D]
  | 0x74 => pure [0x09]
  | 0x75 => do
    let n ← fourHex
    if 0xDC00 ≤ n ∧ n ≤ 0xDFFF then fail .loneSurrogate .taken
    else if n < 0xD800 ∨ 0xDBFF < n then pure (Utf8.encodeChar (Char.ofNat n))
    else
      pairByte 0x5C
      pairByte 0x75
      let m ← fourHex
      if m < 0xDC00 ∨ 0xDFFF < m then fail .loneSurrogate .taken
      else pure (Utf8.encodeChar (Char.ofNat ((n - 0xD800) * 0x400 + (m - 0xDC00) + 0x10000)))
  | _ => fail .badEscape .taken

/-- The bytes of a text through its closing quote, latest first. Bytes that are no text are
refused at the first faulty one. -/
def textBytes : Nat → Bytes → Scan String
  | 0, _ => fail .endInText .taken
  | n + 1, got => do
    match ← peek with
    | none => fail .endInText .taken
    | some 0x22 =>
      match Utf8.decode got.reverse with
      | .ok cs => skip; pure (.ofList cs)
      | .error m =>
        modify fun f => { f with rest := got.reverse.drop (m.validUpTo + 1) ++ f.rest }
        fail .badCodePoint .taken
    | some 0x5C =>
      skip
      let bs ← escaped
      textBytes n (bs.reverse ++ got)
    | some b =>
      skip
      if b < 0x20 then fail .controlCharacter .taken else textBytes n (b :: got)

/-- A text after its opening quote. -/
def text : Scan String := do textBytes (← get).rest.length.succ []

/-- Passes over an escape without asking what it stands for. -/
def passEscape : Scan Unit := do
  match ← textByte with
  | 0x75 => discard fourHex
  | b =>
    if b ∈ [0x22, 0x5C, 0x2F, 0x62, 0x66, 0x6E, 0x72, 0x74] then pure ()
    else fail .badEscape .taken

def passTextBytes : Nat → Scan Unit
  | 0 => fail .endInText .taken
  | n + 1 => do
    match ← peek with
    | none => fail .endInText .taken
    | some 0x22 => skip
    | some 0x5C =>
      skip
      passEscape
      passTextBytes n
    | some b =>
      if b < 0x20 then fail .controlCharacter .glanced
      else
        skip
        passTextBytes n

/-- Passes over a text after its opening quote. -/
def passText : Scan Unit := do passTextBytes (← get).rest.length.succ

def passExponent : Scan Unit := do
  skip
  match ← peek with
  | some 0x2B | some 0x2D => skip
  | _ => pure ()
  match ← next with
  | some b => if isDigit b then discard digits else fail .badNumber .taken
  | none => fail .badNumber .taken

/-- Passes over a number after its sign. -/
def passNumeral : Scan Unit := do
  match ← next with
  | some 0x30 =>
    match ← peek with
    | some c => if isDigit c then fail .badNumber .next
    | none => pure ()
  | some b => if isDigit b then discard digits else fail .badNumber .taken
  | none => fail .badNumber .taken
  match ← peek with
  | some 0x2E =>
    skip
    let ds ← digits
    if ds.isEmpty then fail .badNumber .next
    if isExponentMark (← peek) then passExponent
  | some 0x65 | some 0x45 => passExponent
  | _ => pure ()

end Scan

end Resources.Json

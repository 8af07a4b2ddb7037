import Resources.Json.Scan
import Resources.Json.Value

/-! Reading JSON values, as they are or as a caller needs them. -/
namespace Resources.Json

namespace Scan

variable {α β : Type}

/-- A refusal inside this value that has no place yet takes the place reached here. -/
def settle (m : Scan α) : Scan α := fun f =>
  match m f with
  | .ok r => .ok r
  | .error s => .error { s with settled := true }

/-- A body and its closing bracket. The closing is still looked for after a refusal without a
place, which then counts as made there. -/
def enclosed (body : Scan α) (close : Scan Unit) : Scan α := settle fun f =>
  match body f with
  | .ok (a, g) => (close g).map fun r => (a, r.2)
  | .error s =>
    if s.settled then .error s
    else match close ⟨s.rest, f.ending⟩ with
      | .ok (_, g) => .error { s with reach := .taken, rest := g.rest }
      | .error t => .error { s with reach := .glanced, rest := t.rest }

def endList : Scan Unit := do
  match ← upcoming with
  | some 0x5D => skip
  | some 0x2C =>
    skip
    match ← upcoming with
    | some 0x5D => fail .trailingComma .next
    | _ => fail .trailingCharacters .next
  | some _ => fail .trailingCharacters .next
  | none => fail .endInList .next

def endRecord : Scan Unit := do
  match ← upcoming with
  | some 0x7D => skip
  | some 0x2C => fail .trailingComma .next
  | some _ => fail .trailingCharacters .next
  | none => fail .endInRecord .next

/-- Is there a further item? The closing bracket is left where it is. -/
def moreItems (first : Bool) : Scan Bool := do
  match ← upcoming with
  | none => fail .endInList .next
  | some b =>
    if b = 0x5D then pure false
    else if first then pure true
    else if b = 0x2C then
      skip
      match ← upcoming with
      | some 0x5D => fail .trailingComma .next
      | some _ => pure true
      | none => fail .endInValue .next
    else fail .commaOrListEndDue .next

/-- Is there a further field? Its opening quote is left where it is. -/
def moreFields (first : Bool) : Scan Bool := do
  match ← upcoming with
  | none => fail .endInRecord .next
  | some b =>
    if b = 0x7D then pure false
    else if first then
      if b = 0x22 then pure true else fail .textKeyDue .next
    else if b = 0x2C then
      skip
      match ← upcoming with
      | some 0x22 => pure true
      | some 0x7D => fail .trailingComma .next
      | some _ => fail .textKeyDue .next
      | none => fail .endInValue .next
    else fail .commaOrRecordEndDue .next

def items (item : Scan α) : Nat → Bool → Scan (List α)
  | 0, _ => fail .endInList .next
  | n + 1, first => do
    if ← moreItems first then
      let a ← item
      return a :: (← items item n false)
    else pure []

def fields (field : β → String → Scan β) : Nat → Bool → β → Scan β
  | 0, _, _ => fail .endInRecord .next
  | n + 1, first, b => do
    if ← moreFields first then
      skip
      let key ← text
      fields field n false (← field b key)
    else pure b

def colon : Scan Unit := do
  match ← upcoming with
  | some 0x3A => skip
  | some _ => fail .colonDue .next
  | none => fail .endInRecord .next

/-- What stands between brackets, after the opening one is seen. -/
def listBody (item : Scan α) : Scan (List α) := do
  skip
  items item (← get).rest.length.succ true

def recordBody (field : β → String → Scan β) (b : β) : Scan β := do
  skip
  fields field (← get).rest.length.succ true b

def Numeral.value : Numeral → Value
  | .whole n => .number (.whole n)
  | .real bits => .number (.real bits)

/-- Words, numbers and texts; lists and records are left to the caller. -/
def plainOr (list record : Scan Value) : Scan Value := do
  match ← upcoming with
  | none => fail .endInValue .next
  | some 0x6E => skip; word [0x75, 0x6C, 0x6C]; pure .null
  | some 0x74 => skip; word [0x72, 0x75, 0x65]; pure (.bool true)
  | some 0x66 => skip; word [0x61, 0x6C, 0x73, 0x65]; pure (.bool false)
  | some 0x22 => skip; return .text (← text)
  | some 0x5B => list
  | some 0x7B => record
  | some 0x2D => skip; return (← numeral false).value
  | some b => if isDigit b then return (← numeral true).value else fail .valueDue .next

/-- A value with at most `room` brackets open at a time. -/
def value : Nat → Scan Value
  | 0 => plainOr (fail .tooDeep .next) (fail .tooDeep .next)
  | room + 1 =>
    plainOr
      (return .list (← enclosed (listBody (value room)) endList))
      (return .record (← enclosed (recordBody (fun fs key => do
        colon
        return Value.put fs key (← value room)) []) endRecord))

def Numeral.found : Numeral → Found
  | .whole n => .whole n
  | .real bits => .real bits

/-- Refuses the value that comes next, named by what it is. -/
def wrongType (due : String) : Scan α := do
  match ← peek with
  | some 0x6E => skip; word [0x75, 0x6C, 0x6C]; fail (.wrongType .null due) .taken
  | some 0x74 => skip; word [0x72, 0x75, 0x65]; fail (.wrongType (.bool true) due) .taken
  | some 0x66 => skip; word [0x61, 0x6C, 0x73, 0x65]; fail (.wrongType (.bool false) due) .taken
  | some 0x22 => skip; fail (.wrongType (.text (← text)) due) .taken
  | some 0x5B => fail (.wrongType .list due) .glanced
  | some 0x7B => fail (.wrongType .record due) .glanced
  | some 0x2D => skip; fail (.wrongType (← numeral false).found due) .glanced
  | some b =>
    if isDigit b then fail (.wrongType (← numeral true).found due) .glanced
    else fail .valueDue .next
  | none => fail .valueDue .next

def textValue (due : String) : Scan String := do
  match ← upcoming with
  | none => fail .endInValue .next
  | some 0x22 => skip; text
  | some _ => settle (wrongType due)

def withinBounds (due : String) (bound : Nat) : Numeral → Scan Nat
  | .whole n =>
    if 0 ≤ n ∧ n < bound then pure n.toNat else fail (.wrongValue (.whole n) due) .glanced
  | .real bits => fail (.wrongType (.real bits) due) .glanced

/-- A whole number from zero up to a bound. -/
def wholeValue (due : String) (bound : Nat) : Scan Nat := do
  match ← upcoming with
  | none => fail .endInValue .next
  | some 0x2D => skip; withinBounds due bound (← numeral false)
  | some b =>
    if isDigit b then withinBounds due bound (← numeral true) else settle (wrongType due)

def nullOr (m : Scan α) : Scan (Option α) := do
  match ← upcoming with
  | some 0x6E => skip; word [0x75, 0x6C, 0x6C]; pure none
  | _ => return some (← m)

def nullValue (due : String) : Scan Unit := do
  match ← upcoming with
  | none => fail .endInValue .next
  | some 0x6E => skip; word [0x75, 0x6C, 0x6C]
  | some _ => settle (wrongType due)

def listValue (due : String) (item : Scan α) : Scan (List α) := do
  match ← upcoming with
  | none => fail .endInValue .next
  | some 0x5B => enclosed (listBody item) endList
  | some _ => settle (wrongType due)

def recordValue (due : String) (field : β → String → Scan β) (b : β) : Scan β := do
  match ← upcoming with
  | none => fail .endInValue .next
  | some 0x7B => enclosed (recordBody field b) endRecord
  | some _ => settle (wrongType due)

/-- A bracket that a value being passed over has opened. -/
inductive Bracket where
  | list
  | record
  deriving DecidableEq, Repr

def Bracket.closing : Bracket → UInt8
  | list => 0x5D
  | record => 0x7D

def Bracket.endCause : Bracket → Cause
  | list => .endInList
  | record => .endInRecord

def Bracket.commaCause : Bracket → Cause
  | list => .commaOrListEndDue
  | record => .commaOrRecordEndDue

def passKey : Scan Unit := do
  match ← upcoming with
  | some 0x22 => skip; passText
  | some _ => fail .textKeyDue .next
  | none => fail .endInRecord .next
  match ← upcoming with
  | some 0x3A => skip
  | some _ => fail .colonDue .next
  | none => fail .endInRecord .next

/-- Passes over a value, however deep: `due` says that a value comes next, else what follows one
(`comma` if one may). The open brackets are innermost first. -/
def pass : Nat → Bool → Bool → List Bracket → Scan Unit
  | 0, _, _, _ => fail .endInValue .next
  | _ + 1, false, _, [] => pure ()
  | n + 1, false, comma, b :: outer => do
    match ← upcoming with
    | none => fail b.endCause .next
    | some c =>
      if c = b.closing then
        skip
        pass n false true outer
      else if comma then
        if c = 0x2C then
          skip
          if b = .record then passKey
          pass n true false (b :: outer)
        else fail b.commaCause .next
      else
        if b = .record then passKey
        pass n true false (b :: outer)
  | n + 1, true, _, bs => do
    match ← upcoming with
    | none => fail .endInValue .next
    | some 0x6E => skip; word [0x75, 0x6C, 0x6C]; pass n false true bs
    | some 0x74 => skip; word [0x72, 0x75, 0x65]; pass n false true bs
    | some 0x66 => skip; word [0x61, 0x6C, 0x73, 0x65]; pass n false true bs
    | some 0x22 => skip; passText; pass n false true bs
    | some 0x5B => skip; pass n false false (.list :: bs)
    | some 0x7B => skip; pass n false false (.record :: bs)
    | some 0x2D => skip; passNumeral; pass n false true bs
    | some c =>
      if isDigit c then
        passNumeral
        pass n false true bs
      else fail .valueDue .next

def passValue : Scan Unit := do pass (2 * (← get).rest.length + 4) true false []

/-- One value and nothing after it. -/
def document (m : Scan α) : Scan α := do
  let a ← m
  match ← upcoming with
  | none => pure a
  | some _ => fail .trailingCharacters .next

end Scan

/-- At most this many brackets are open at a time in a value that is kept. -/
def depthLimit : Nat := 127

variable {α : Type}

/-- Reads a whole feed as one value. -/
def readFeed (m : Scan α) (f : Feed) : Except Stop α := (Scan.document m f).map (·.1)

/-- Reads a whole text as one value. -/
def readText (m : Scan α) (s : String) : Except Stop α := readFeed m ⟨utf8 s, none⟩

def anyValue : Scan Value := Scan.value depthLimit

end Resources.Json

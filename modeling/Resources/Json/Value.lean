import Resources.Text.Decimal

/-! JSON values and their compact text. -/
namespace Resources.Json

/-- A whole number of 64 bits, or the bits of a double. -/
inductive Number where
  | whole (n : Int)
  | real (bits : UInt64)
  deriving DecidableEq, Repr

inductive Value where
  | null
  | bool (b : Bool)
  | number (n : Number)
  | text (s : String)
  | list (items : List Value)
  | record (fields : List (String × Value))
  deriving Repr, Inhabited

def Number.render : Number → String
  | .whole n => toString n
  | .real bits => Decimal.render bits

def hexDigit (n : Nat) : Char := Char.ofNat (if n < 10 then 0x30 + n else 0x57 + n)

/-- Quotes, backslashes and control characters are escaped; nothing else is. -/
def escape (c : Char) : List Char :=
  if c = '"' then ['\\', '"']
  else if c = '\\' then ['\\', '\\']
  else if c = '\x08' then ['\\', 'b']
  else if c = '\t' then ['\\', 't']
  else if c = '\n' then ['\\', 'n']
  else if c = '\x0c' then ['\\', 'f']
  else if c = '\r' then ['\\', 'r']
  else if c.toNat < 0x20 then ['\\', 'u', '0', '0', hexDigit (c.toNat / 16), hexDigit (c.toNat % 16)]
  else [c]

def quote (s : String) : String := .ofList ('"' :: s.toList.flatMap escape ++ ['"'])

namespace Value

mutual

def render : Value → String
  | null => "null"
  | bool b => if b then "true" else "false"
  | number n => n.render
  | text s => quote s
  | list items => "[" ++ ",".intercalate (renderItems items) ++ "]"
  | record fields => "\x7b" ++ ",".intercalate (renderFields fields) ++ "\x7d"

def renderItems : List Value → List String
  | [] => []
  | v :: r => render v :: renderItems r

def renderFields : List (String × Value) → List String
  | [] => []
  | (k, v) :: r => (quote k ++ ":" ++ render v) :: renderFields r

end

/-- Adds a field; a later one of the same name replaces the earlier. -/
def put (fields : List (String × Value)) (key : String) (v : Value) : List (String × Value) :=
  fields.filter (·.1 ≠ key) ++ [(key, v)]

end Value

end Resources.Json

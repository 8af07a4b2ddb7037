import Resources.Fault
import Resources.Text.Quoted
import Resources.Text.Utf8
import Resources.Text.Decimal

/-! Why a JSON text was refused, and where. -/
namespace Resources.Json

/-- What stood where something else was due. -/
inductive Found where
  | null
  | bool (b : Bool)
  | whole (n : Int)
  | real (bits : UInt64)
  | text (s : String)
  | list
  | record
  deriving DecidableEq, Repr

def Found.message : Found → String
  | null => "null"
  | bool b => s!"boolean `{b}`"
  | whole n => s!"integer `{n}`"
  | real bits => s!"floating point `{Decimal.render bits}`"
  | text s => "string " ++ quoted s
  | list => "sequence"
  | record => "map"

inductive Cause where
  | endInList | endInRecord | endInText | endInValue
  | colonDue | commaOrListEndDue | commaOrRecordEndDue | identDue | valueDue | textKeyDue
  | badEscape | badNumber | numberOutOfRange | badCodePoint | controlCharacter
  | loneSurrogate | hexEscapeCutShort | trailingComma | trailingCharacters | tooDeep
  | fault (f : Fault)
  | wrongType (found : Found) (due : String)
  | wrongValue (found : Found) (due : String)
  | repeatedField (name : String)
  | unknownVariant (name : String) (known : List String)
  deriving DecidableEq, Repr

def Cause.message : Cause → String
  | endInList => "EOF while parsing a list"
  | endInRecord => "EOF while parsing an object"
  | endInText => "EOF while parsing a string"
  | endInValue => "EOF while parsing a value"
  | colonDue => "expected `:`"
  | commaOrListEndDue => "expected `,` or `]`"
  | commaOrRecordEndDue => "expected `,` or `\x7d`"
  | identDue => "expected ident"
  | valueDue => "expected value"
  | textKeyDue => "key must be a string"
  | badEscape => "invalid escape"
  | badNumber => "invalid number"
  | numberOutOfRange => "number out of range"
  | badCodePoint => "invalid unicode code point"
  | controlCharacter => "control character (\\u0000-\\u001F) found while parsing a string"
  | loneSurrogate => "lone leading surrogate in hex escape"
  | hexEscapeCutShort => "unexpected end of hex escape"
  | trailingComma => "trailing comma"
  | trailingCharacters => "trailing characters"
  | tooDeep => "recursion limit exceeded"
  | fault f => f.text
  | wrongType found due => s!"invalid type: {found.message}, expected {due}"
  | wrongValue found due => s!"invalid value: {found.message}, expected {due}"
  | repeatedField name => s!"duplicate field `{name}`"
  | unknownVariant name known =>
    s!"unknown variant `{name}`, expected one of " ++ ", ".intercalate (known.map (s!"`{·}`"))

/-- How far the reader had looked when it stopped: not past the bytes taken, at the next byte
without need of it, or at the next byte because of it. -/
inductive Reach where
  | taken
  | glanced
  | next
  deriving DecidableEq, Repr

/-- A refusal: its cause, the bytes then left, and whether its place is settled. An unsettled
refusal takes the place where an enclosing value gives up; outside any it has none. -/
structure Stop where
  cause : Cause
  settled : Bool
  reach : Reach
  rest : Bytes
  deriving DecidableEq, Repr

/-- Lines count from one, and the column is the number of bytes since the line began. -/
def lineColumn (before : Bytes) : Nat × Nat :=
  ((before.filter (· = 0x0A)).length + 1, (before.reverse.takeWhile (· ≠ 0x0A)).length)

/-- A live reader has taken a byte in order to look at it, so a glance counts there. -/
def Stop.place (s : Stop) (live : Bool) (whole : Bytes) : Nat × Nat :=
  let seen := match s.reach with
    | .taken => 0
    | .glanced => if live then 1 else 0
    | .next => 1
  lineColumn (whole.take (whole.length - s.rest.length + seen))

def Stop.message (s : Stop) (live : Bool) (whole : Bytes) : String :=
  if s.settled then
    let (line, column) := s.place live whole
    s!"{s.cause.message} at line {line} column {column}"
  else s.cause.message

end Resources.Json

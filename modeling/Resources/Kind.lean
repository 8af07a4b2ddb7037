import Resources.Json.Reader

/-! The kinds of backing a resource can have. -/
namespace Resources

inductive Kind where
  | file
  | classPath
  | url
  | byteArray
  | inputStream
  deriving DecidableEq, Repr

namespace Kind

def text : Kind → String
  | file => "file"
  | classPath => "class path"
  | url => "url"
  | byteArray => "byte array"
  | inputStream => "input stream"

/-- May the content be read more than once? -/
def isRereadable (k : Kind) : Bool := k ≠ inputStream

/-- The name in JSON. -/
def tag : Kind → String
  | file => "File"
  | classPath => "ClassPath"
  | url => "Url"
  | byteArray => "ByteArray"
  | inputStream => "InputStream"

def all : List Kind := [file, classPath, url, byteArray, inputStream]

def ofTag? (s : String) : Option Kind := all.find? (·.tag = s)

def render (k : Kind) : String := Json.quote k.tag

open Json Scan

def ofTag (s : String) : Scan Kind :=
  match ofTag? s with
  | some k => pure k
  | none => fail (.unknownVariant s (all.map tag)) .taken

/-- The one field of a record: a tag, and null. -/
def tagged : Scan Kind := do
  skip
  let k ← ofTag (← textValue "variant identifier")
  colon
  nullValue "unit"
  match ← upcoming with
  | some 0x7D => skip; pure k
  | some _ => fail .valueDue .glanced
  | none => fail .endInRecord .taken

/-- A kind is its tag, or a record from its tag to null. -/
def scan : Scan Kind := do
  match ← upcoming with
  | none => fail .endInValue .next
  | some 0x22 => skip; ofTag (← Scan.text)
  | some 0x7B => tagged
  | some _ => fail .valueDue .next

def ofJson (s : String) : Except Stop Kind := readText scan s

end Kind

end Resources

import Resources.Text.Utf8

/-! Paths as the file system takes them: bytes, not always text. -/
namespace Resources

structure FilePath where
  bytes : Bytes
  deriving DecidableEq, Repr, Inhabited

namespace FilePath

def slash : UInt8 := 0x2F

def ofText (p : List Char) : FilePath := ⟨Utf8.encode p⟩

def ofString (p : String) : FilePath := .ofText p.toList

def text? (p : FilePath) : Option String := (Utf8.decode? p.bytes).map .ofList

def lossy (p : FilePath) : String := .ofList (Utf8.decodeLossy p.bytes)

def isRooted (p : FilePath) : Bool := p.bytes.head? == some slash

/-- A rooted path replaces the one it is joined to; nothing joined still ends it with a slash. -/
def join (p q : FilePath) : FilePath :=
  if q.isRooted then q
  else if p.bytes = [] ∨ p.bytes.getLast? = some slash then ⟨p.bytes ++ q.bytes⟩
  else ⟨p.bytes ++ slash :: q.bytes⟩

def here : Bytes := [0x2E]

def up : Bytes := [0x2E, 0x2E]

def segments (p : FilePath) : List Bytes := p.bytes.splitOn slash

/-- The names on a path. Empty segments and `.` are no names, but a relative path keeps one `.` at
its head. -/
def names (p : FilePath) : List Bytes :=
  match p.segments with
  | [] => []
  | first :: rest =>
    let kept := rest.filter fun s => s ≠ [] && s ≠ here
    if first = [] then kept else first :: kept

/-- Two spellings of one path: the same root and the same names. -/
def Same (p q : FilePath) : Prop := p.isRooted = q.isRooted ∧ p.names = q.names

instance (p q : FilePath) : Decidable (Same p q) := inferInstanceAs (Decidable (_ ∧ _))

/-- The names of the path as seen from the root, when a relative one starts below `home`. The empty
path has no place. -/
def absoluteNames? (home : List Bytes) (p : FilePath) : Option (List Bytes) :=
  if p.bytes = [] then none
  else if p.isRooted then some p.names
  else some (home ++ match p.names with
    | first :: rest => if first = here then rest else first :: rest
    | [] => [])

end FilePath

end Resources

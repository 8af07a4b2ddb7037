import Resources.Fault
import Resources.Path.FilePath
import Resources.Time

/-! A disk of directories and files, without links. Paths are walked name by name. -/
namespace Resources

/-- The names from a place up to the root, innermost first. -/
abbrev Location := List Bytes

/-- What a name stands for. A file names its body, so it can be read on after its name is gone. -/
inductive Node where
  | directory
  | file (body : Nat)
  deriving DecidableEq, Repr

structure Body where
  content : Bytes
  modified : Instant
  deriving DecidableEq, Repr, Inhabited

/-- What is kept of a directory beside its names. -/
structure Folder where
  length : Nat
  modified : Instant
  deriving DecidableEq, Repr

structure Metadata where
  isDirectory : Bool
  length : Nat
  modified : Instant
  deriving DecidableEq, Repr

/-- Files have their content in bodies. Directories have their data by their places; if nothing else
is said, that is the length of one block and the epoch. -/
structure Disk where
  entries : List (Location × Node)
  bodies : List Body
  home : Location
  folder : Location → Folder := fun _ => ⟨4096, .epoch⟩

namespace Disk

/-- The root is always there. Any other place needs an entry, and a directory above it. -/
def node? (d : Disk) : Location → Option Node
  | [] => some .directory
  | name :: parent =>
    if d.node? parent = some .directory then d.entries.lookup (name :: parent) else none

def body (d : Disk) (n : Nat) : Body := d.bodies[n]?.getD ⟨[], .epoch⟩

def nameLimit : Nat := 255

def pathLimit : Nat := 4096

/-- One step on a path. Only a directory can be stepped from, and the root is above itself. -/
def enter (d : Disk) (l : Location) (name : Bytes) : Except Fault Location :=
  match d.node? l with
  | none => .error .absent
  | some (.file _) => .error .throughFile
  | some .directory =>
    if name = [] ∨ name = FilePath.here then .ok l
    else if name = FilePath.up then .ok l.tail
    else if nameLimit < name.length then .error .tooLong
    else if (d.node? (name :: l)).isNone then .error .absent
    else .ok (name :: l)

/-- Where the walk over a path begins. -/
def start (d : Disk) (p : FilePath) : Location := if p.isRooted then [] else d.home

/-- What a path leads to. A slash after a name asks for a directory there. -/
def resolve (d : Disk) (p : FilePath) : Except Fault Location :=
  if 0 ∈ p.bytes then .error .nulByte
  else if p.bytes = [] then .error .absent
  else if pathLimit ≤ p.bytes.length then .error .tooLong
  else p.segments.foldlM d.enter (d.start p)

def find (d : Disk) (p : FilePath) : Except Fault Node := do
  let l ← d.resolve p
  match d.node? l with
  | some n => .ok n
  | none => .error .absent

def holds (d : Disk) (p : FilePath) : Bool := (d.find p).isOk

/-- What the disk says about the node at a place. -/
def about (d : Disk) (l : Location) : Node → Metadata
  | .directory => ⟨true, (d.folder l).length, (d.folder l).modified⟩
  | .file n => ⟨false, (d.body n).content.length, (d.body n).modified⟩

def metadata (d : Disk) (p : FilePath) : Except Fault Metadata := do
  let l ← d.resolve p
  match d.node? l with
  | some n => .ok (d.about l n)
  | none => .error .absent

/-- Is there something at the path that is no directory? -/
def holdsFile (d : Disk) (p : FilePath) : Bool :=
  match d.metadata p with
  | .ok m => !m.isDirectory
  | .error _ => false

/-- Gives a place an entry in place of any it had. -/
def put (d : Disk) (l : Location) (n : Node) : Disk :=
  { d with entries := (l, n) :: d.entries.filter (·.1 ≠ l) }

/-- One step on a path, with a new directory where nothing was. -/
def enterMaking (s : Disk × Location) (name : Bytes) : Except Fault (Disk × Location) :=
  match s.1.enter s.2 name with
  | .ok l => .ok (s.1, l)
  | .error f =>
    if f = .absent then .ok (s.1.put (name :: s.2) .directory, name :: s.2) else .error f

def walkMaking (d : Disk) (p : FilePath) (names : List Bytes) : Except Fault (Disk × Location) :=
  if 0 ∈ p.bytes then .error .nulByte
  else if pathLimit ≤ p.bytes.length then .error .tooLong
  else names.foldlM enterMaking (d, d.start p)

/-- Makes a directory and those above it that are missing. -/
def makeDirectory (d : Disk) (p : FilePath) : Except Fault Disk := do
  let (d', l) ← d.walkMaking p (p.segments.reverse.dropWhile (· = [])).reverse
  if d'.node? l = some .directory then .ok d' else .error .occupied

/-- Writes a file, with the directories above it that are missing. A file that is there keeps its
body, with new content. -/
def write (d : Disk) (p : FilePath) (content : Bytes) (modified : Instant) : Except Fault Disk := do
  let body : Body := ⟨content, modified⟩
  match p.segments.reverse with
  | [] => .error .absent
  | last :: above =>
    let (d, l) ← d.walkMaking p above.reverse
    if last = [] ∨ last = FilePath.here ∨ last = FilePath.up then
      if d.node? l = some .directory then .error .directory else .error .throughFile
    else match d.enter l last with
      | .ok l' =>
        match d.node? l' with
        | some (.file n) => .ok { d with bodies := d.bodies.set n body }
        | _ => .error .directory
      | .error f =>
        if f = .absent then
          .ok { d.put (last :: l) (.file d.bodies.length) with bodies := d.bodies ++ [body] }
        else .error f

/-- Removes what a path leads to, and all below it. -/
def remove (d : Disk) (p : FilePath) : Except Fault Disk := do
  let l ← d.resolve p
  .ok { d with entries := d.entries.filter fun e => ¬ l <:+ e.1 }

/-- A disk with the directories of one path and nothing else; relative paths start there. -/
def ofHome (home : FilePath) : Disk :=
  let names := home.names.reverse
  { entries := (List.range names.length).map fun n => (names.drop n, .directory)
    bodies := []
    home := names }

end Disk

end Resources

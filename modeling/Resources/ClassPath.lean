import Resources.Disk
import Resources.Path.Lexical
import Resources.Text.Quoted

/-! Class paths: ordered roots in which names are looked up, directories and bundles. -/
namespace Resources

/-- A name as it is looked up: in its simplest spelling, from the root. -/
def plainName (name : String) : String :=
  let cleaned := Path.clean name
  match cleaned.toList with
  | '/' :: r => .ofList r
  | _ => cleaned

/-- Named contents, held in memory. -/
structure Bundle where
  label : String
  entries : List (String × Bytes)
  deriving DecidableEq, Repr

namespace Bundle

def empty (label : String) : Bundle := ⟨label, []⟩

/-- A later content replaces an earlier one of the same name. -/
def insert (b : Bundle) (name : String) (data : Bytes) : Bundle :=
  let name := plainName name
  { b with entries := (name, data) :: b.entries.filter (·.1 ≠ name) }

def ofList (label : String) (entries : List (String × Bytes)) : Bundle :=
  entries.foldl (fun b (name, data) => b.insert name data) (empty label)

def get? (b : Bundle) (name : String) : Option Bytes := b.entries.lookup name

def size (b : Bundle) : Nat := b.entries.length

/-- In the order of their bytes. -/
def names (b : Bundle) : List String := (b.entries.map (·.1)).mergeSort fun a b => a ≤ b

/-- A bundle as diagnostics show it. -/
def shown (b : Bundle) : String :=
  "EmbeddedAssets \x7b label: " ++ quoted b.label ++ s!", entries: {b.size} \x7d"

end Bundle

inductive Root where
  | directory (path : FilePath)
  | bundle (b : Bundle)
  deriving DecidableEq, Repr

/-- What a name leads to. -/
inductive Hit where
  | file (path : FilePath)
  | bundled (data : Bytes)
  deriving DecidableEq, Repr

/-- Where a name would be in a directory. The empty name is the directory itself. -/
def Root.candidate (dir : FilePath) (name : String) : FilePath :=
  if name = "" then dir else dir.join (.ofString name)

def Root.lookup (d : Disk) (name : String) : Root → Option Hit
  | directory dir =>
    let p := candidate dir name
    if d.holds p then some (.file p) else none
  | bundle b => (b.get? name).map .bundled

/-- Does the name leave the root it is looked up in? -/
def climbsOut (name : String) : Bool := name = ".." || "../".toList.isPrefixOf name.toList

structure ClassPath where
  roots : List Root
  deriving DecidableEq, Repr

namespace ClassPath

def empty : ClassPath := ⟨[]⟩

def isEmpty (c : ClassPath) : Bool := c.roots.isEmpty

/-- The first root that holds the name answers. -/
def lookup (d : Disk) (c : ClassPath) (name : String) : Option Hit :=
  if climbsOut name then none else c.roots.findSome? (Root.lookup d name)

end ClassPath

/-- A class path in use. Two uses differ even if their roots are the same. -/
structure Context where
  id : Nat
  classPath : ClassPath
  deriving DecidableEq, Repr

end Resources

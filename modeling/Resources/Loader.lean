import Resources.Handle.All

/-! Loaders: from a location to a handle. -/
namespace Resources

/-- Where a loader looks, and the client that its handles share. -/
structure Loader where
  baseDir : Option FilePath
  context : Context
  client : Client
  deriving Repr

namespace Loader

def ofSettings (s : Settings) : Act Loader := do
  let roots := s.classPath.map Root.directory
  return ⟨s.baseDir, ⟨← Act.fresh, ⟨roots⟩⟩, ← Client.fresh s.timeout⟩

def fresh : Act Loader := ofSettings .standard

def withClassPath (l : Loader) (c : ClassPath) : Act Loader :=
  return { l with context := ⟨← Act.fresh, c⟩ }

def withBaseDir (l : Loader) (dir : FilePath) : Loader := { l with baseDir := some dir }

/-- The class path, if it has any roots. -/
def lookupContext? (l : Loader) : Option Context :=
  if l.context.classPath.isEmpty then none else some l.context

def classPathMark : List Char := "classpath:".toList

/-- The schemes that make a location a URL. With any other it is a path. -/
def schemes : List String := ["file", "http", "https"]

def url? (location : String) : Option Url :=
  (Url.parse location).toOption.filter fun u => .ofList u.scheme ∈ schemes

/-- A location below the base directory, or on the class path, or as it is. -/
def pathHandle (l : Loader) (location : String) : Handle :=
  match l.baseDir with
  | some base =>
    .file (.of (base.join (.ofText (location.toList.dropWhile Url.isSlash))))
  | none =>
    match l.lookupContext? with
    | some c => .classPath (.of location c)
    | none => .file (.of (.ofString location))

/-- A location always has a handle. Nothing is looked up. -/
def handle (l : Loader) (location : String) : Handle :=
  match classPathMark.isPrefixOf location.toList, url? location with
  | true, _ => .classPath (.of (.ofList (location.toList.drop classPathMark.length)) l.context)
  | false, some u =>
    match u.filePath? with
    | some p => .file (.of p)
    | none => .url ⟨u, l.client⟩
  | false, none => l.pathHandle location

end Loader

end Resources

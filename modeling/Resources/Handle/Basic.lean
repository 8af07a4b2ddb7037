import Resources.ClassPath
import Resources.Kind
import Resources.World

/-! Handles: where a resource is to be found, which says nothing of whether it is there. -/
namespace Resources

/-- A file. The path is shown as text even where it is none. -/
structure FileHandle where
  shown : String
  path : FilePath
  deriving DecidableEq, Repr

/-- A path that is text is cleaned; any other is kept as it is. -/
def FileHandle.of (p : FilePath) : FileHandle :=
  match p.text? with
  | some t => ⟨Path.clean t, .ofString (Path.clean t)⟩
  | none => ⟨p.lossy, p⟩

/-- A name on a class path. -/
structure ClassPathHandle where
  name : String
  context : Context
  deriving DecidableEq, Repr

def ClassPathHandle.of (name : String) (c : Context) : ClassPathHandle := ⟨plainName name, c⟩

structure UrlHandle where
  url : Url
  client : Client
  deriving DecidableEq, Repr

/-- Bytes in memory. -/
structure BytesHandle where
  data : Bytes
  label : String
  deriving DecidableEq, Repr

def BytesHandle.standardLabel : String := "resource loaded from byte array"

/-- A stream that was open before it became a resource, and that is handed out once. -/
structure StreamHandle where
  id : Nat
  source : Source
  label : String
  deriving DecidableEq, Repr

def StreamHandle.standardLabel : String := "resource loaded through InputStream"

inductive Handle where
  | file (h : FileHandle)
  | classPath (h : ClassPathHandle)
  | url (h : UrlHandle)
  | bytes (h : BytesHandle)
  | stream (h : StreamHandle)
  deriving DecidableEq, Repr

namespace Handle

/-- What tells handles of one kind apart: for files the names on the path, for the others their
name and context, their URL or their content. A stream is like nothing. -/
def Alike : Handle → Handle → Prop
  | file a, file b => a.path.Same b.path
  | classPath a, classPath b => a = b
  | url a, url b => a.url.text = b.url.text
  | bytes a, bytes b => a.data = b.data
  | _, _ => False

instance : DecidableRel Alike := fun a b => by
  cases a <;> cases b <;> unfold Alike <;> infer_instance

/-- What a hash of the handle is made of. -/
inductive HashKey where
  | names (ns : List Bytes)
  | name (s : String)
  | url (s : String)
  | content (b : Bytes)
  deriving DecidableEq, Repr

def hashKey? : Handle → Option HashKey
  | file h => some (.names h.path.names)
  | classPath h => some (.name h.name)
  | url h => some (.url h.url.text)
  | bytes h => some (.content h.data)
  | stream _ => none

end Handle

end Resources

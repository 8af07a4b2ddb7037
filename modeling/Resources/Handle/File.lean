import Resources.Resource
import Resources.Url.Local

/-! Resources on the disk. -/
namespace Resources.FileHandle

def description (h : FileHandle) : String := s!"file [{h.shown}]"

def notResolved (h : FileHandle) : Failure := .unresolvableLocator h.description "URL"

def failed (h : FileHandle) (operation : String) (f : Fault) : Failure :=
  .ofFault operation h.description f

def present (h : FileHandle) (d : Disk) : Bool := d.holds h.path

def readable (h : FileHandle) (d : Disk) : Bool := d.holdsFile h.path

/-- The URL of the path as seen from the root. -/
def url (h : FileHandle) (d : Disk) : Except Failure Url :=
  match h.path.absoluteNames? d.home.reverse with
  | some names => .ok (.ofNames names)
  | none => .error h.notResolved

def isDirectory : Fault := ⟨.isADirectory, "is a directory"⟩

/-- A directory is found, but it is no content. -/
def openStream (h : FileHandle) (d : Disk) : Except Failure Stream :=
  match d.find h.path with
  | .error f => .error (h.failed "open" f)
  | .ok .directory => .error (.io "open" h.description isDirectory)
  | .ok (.file n) => .ok (.file n 0)

def metadata (h : FileHandle) (operation : String) (d : Disk) : Except Failure Metadata :=
  (d.metadata h.path).mapError (h.failed operation)

def contentLength (h : FileHandle) (d : Disk) : Except Failure Nat :=
  (h.metadata "content_length" d).map (·.length)

def lastModified (h : FileHandle) (d : Disk) : Except Failure Instant :=
  (h.metadata "last_modified" d).map (·.modified)

/-- The path is read from the directory of this one. -/
def relative (h : FileHandle) (path : String) : Except Failure FileHandle :=
  match Path.relative h.shown path with
  | some p => .ok (.of (.ofString p))
  | none => .error (.resolution h.description "empty relative path")

def fileName (h : FileHandle) : Option String := Path.lastName h.shown

def resource (h : FileHandle) : Resource where
  kind := .file
  description := h.description
  present := .onDisk h.present
  readable := .onDisk h.readable
  isFile := pure true
  url := .onDisk h.url
  file := pure h.path
  openStream := .onDisk h.openStream
  contentLength := .onDisk h.contentLength
  lastModified := .onDisk h.lastModified
  relative path := .file <$> Attempt.ofExcept (h.relative path)
  fileName := h.fileName

end Resources.FileHandle

import Resources.Handle.File

/-! Resources on a class path. Every question is answered by the first root that holds the name. -/
namespace Resources.ClassPathHandle

def description (h : ClassPathHandle) : String := s!"class path resource [{h.name}]"

def notFound (h : ClassPathHandle) : Failure := .notFound h.description

def notResolved (h : ClassPathHandle) : Failure := .unresolvableLocator h.description "URL"

def failed (h : ClassPathHandle) (operation : String) (f : Fault) : Failure :=
  .ofFault operation h.description f

def lookup (h : ClassPathHandle) (d : Disk) : Option Hit := h.context.classPath.lookup d h.name

def hit (h : ClassPathHandle) (d : Disk) : Except Failure Hit :=
  match h.lookup d with
  | some x => .ok x
  | none => .error h.notFound

def present (h : ClassPathHandle) (d : Disk) : Bool := (h.lookup d).isSome

def readable (h : ClassPathHandle) (d : Disk) : Bool :=
  match h.lookup d with
  | some (.file p) => d.holdsFile p
  | some (.bundled _) => true
  | none => false

def isFile (h : ClassPathHandle) (d : Disk) : Bool :=
  match h.lookup d with
  | some (.file _) => true
  | _ => false

def url (h : ClassPathHandle) (d : Disk) : Except Failure Url :=
  match h.lookup d with
  | some (.file p) =>
    match p.absoluteNames? d.home.reverse with
    | some names => .ok (.ofNames names)
    | none => .error h.notResolved
  | _ => .error h.notResolved

def file (h : ClassPathHandle) (d : Disk) : Except Failure FilePath := do
  match ← h.hit d with
  | .file p => .ok p
  | .bundled _ => .error (.notFound s!"{h.description} (embedded, not in a file system)")

def metadata (h : ClassPathHandle) (p : FilePath) (operation : String) (d : Disk) :
    Except Failure Metadata :=
  (d.metadata p).mapError (h.failed operation)

def openStream (h : ClassPathHandle) (d : Disk) : Except Failure Stream := do
  match ← h.hit d with
  | .bundled data => .ok (.ofBytes data)
  | .file p =>
    match d.find p with
    | .error f => .error (h.failed "open" f)
    | .ok .directory => .error (.io "open" h.description FileHandle.isDirectory)
    | .ok (.file n) => .ok (.file n 0)

def contentLength (h : ClassPathHandle) (d : Disk) : Except Failure Nat := do
  match ← h.hit d with
  | .bundled data => .ok data.length
  | .file p => return (← h.metadata p "content_length" d).length

def lastModified (h : ClassPathHandle) (d : Disk) : Except Failure Instant := do
  match ← h.hit d with
  | .bundled _ =>
    .error (.resolution h.description "embedded assets carry no modification time")
  | .file p => return (← h.metadata p "last_modified" d).modified

/-- The name must stay below the roots. -/
def relative (h : ClassPathHandle) (path : String) : Except Failure ClassPathHandle :=
  match Path.relative h.name path with
  | none => .error (.resolution h.description "empty relative path")
  | some p =>
    let name := plainName p
    if climbsOut name then
      .error (.resolution h.description s!"'{path}' escapes the class path root")
    else .ok { h with name }

def fileName (h : ClassPathHandle) : Option String := Path.lastName h.name

def resource (h : ClassPathHandle) : Resource where
  kind := .classPath
  description := h.description
  present := .onDisk h.present
  readable := .onDisk h.readable
  isFile := .onDisk h.isFile
  url := .onDisk h.url
  file := .onDisk h.file
  openStream := .onDisk h.openStream
  contentLength := .onDisk h.contentLength
  lastModified := .onDisk h.lastModified
  relative path := .classPath <$> Attempt.ofExcept (h.relative path)
  fileName := h.fileName

end Resources.ClassPathHandle

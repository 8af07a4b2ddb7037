import Resources.Resource
import Resources.Time.MailDate
import Resources.Url.Local
import Resources.Web.Status

/-! Resources at a URL: on the web, or on the disk for local URLs. Other schemes name nothing that
can be read. -/
namespace Resources.UrlHandle

def description (h : UrlHandle) : String := s!"URL [{h.url.text}]"

/-- A URL with a client of its own. -/
def fresh (u : Url) : Act UrlHandle := return ⟨u, ← Client.fresh Settings.defaultTimeout⟩

def parse (location : String) : Attempt UrlHandle := do
  match Url.parse location with
  | .ok u => fresh u
  | .error c => throw (.resolution s!"URL [{location}]" c.message)

def isHttp (h : UrlHandle) : Bool := h.url.isHttp

def localPath? (h : UrlHandle) : Option FilePath := h.url.filePath?

def failed (h : UrlHandle) (operation : String) (f : Fault) : Failure :=
  .ofFault operation h.description f

/-- The last response to a request, whatever its status. -/
def fetch (h : UrlHandle) (m : Method) : Attempt Response := do
  match ← h.client.fetch m h.url with
  | .ok r => pure r
  | .error f => throw (.http h.description f.message)

def refused (h : UrlHandle) (status : Nat) : Failure :=
  if status = 404 ∨ status = 410 then .notFound h.description
  else .io "fetch" h.description ⟨.other, s!"HTTP status {Status.text status}"⟩

/-- Only a response of success counts. -/
def checked (h : UrlHandle) (r : Response) : Attempt Response :=
  if r.isSuccess then pure r else throw (h.refused r.status)

def get (h : UrlHandle) : Attempt Response := do h.checked (← h.fetch .get)

def header (h : UrlHandle) (name : String) : Attempt String := do
  let r ← h.checked (← h.fetch .head)
  match r.headerText? name with
  | some t => pure t
  | none => throw (.resolution h.description s!"no {name} header")

/-- A server that refuses to answer for the head alone is asked for the whole. -/
def presentOnWeb (h : UrlHandle) : Act Bool := do
  match ← (h.fetch .head).run with
  | .ok r => if r.status = 405 then h.get.succeeds else pure r.isSuccess
  | .error _ => pure false

def present (h : UrlHandle) : Act Bool :=
  if h.isHttp then h.presentOnWeb
  else match h.localPath? with
    | some p => .onDisk fun d => d.holds p
    | none => pure false

def readable (h : UrlHandle) : Act Bool :=
  match h.localPath? with
  | some p => .onDisk fun d => d.holdsFile p
  | none => h.present

def isFile (h : UrlHandle) : Bool := h.url.isFile

def file (h : UrlHandle) : Except Failure FilePath :=
  if ¬ h.isFile then .error (.unresolvableLocator h.description "file path")
  else match h.localPath? with
    | some p => .ok p
    | none => .error (.resolution h.description "file URL has no local path")

/-- A directory opens, but does not read. -/
def openLocal (h : UrlHandle) (p : FilePath) (d : Disk) : Except Failure Stream :=
  match d.find p with
  | .error f => .error (h.failed "open" f)
  | .ok .directory => .ok .directory
  | .ok (.file n) => .ok (.file n 0)

def unsupported (h : UrlHandle) : Fault :=
  ⟨.unsupported, s!"unsupported URL scheme '{String.ofList h.url.scheme}'"⟩

def openStream (h : UrlHandle) : Attempt Stream := do
  if h.isHttp then
    let r ← h.get
    pure (.source ⟨r.body, none, r.ending⟩)
  else match h.localPath? with
    | some p => .onDisk (h.openLocal p)
    | none => throw (.io "open" h.description h.unsupported)

/-- Digits, with a plus sign or blanks around them allowed, up to 64 bits. -/
def lengthOf? (t : String) : Option Nat :=
  let cs := ((t.toList.dropWhile Char.isWhitespace).reverse.dropWhile Char.isWhitespace).reverse
  let digits := match cs with
    | '+' :: r => r
    | _ => cs
  (Answer.number? digits).filter (· < Nat.pow 2 64)

def metadata (h : UrlHandle) (p : FilePath) (operation : String) (d : Disk) :
    Except Failure Metadata :=
  (d.metadata p).mapError (h.failed operation)

def contentLength (h : UrlHandle) : Attempt Nat := do
  if h.isHttp then
    let value ← h.header "content-length"
    match lengthOf? value with
    | some n => pure n
    | none => throw (.resolution h.description s!"invalid content-length '{value}'")
  else match h.localPath? with
    | some p => return (← .onDisk (h.metadata p "content_length")).length
    | none => throw (.resolution h.description "content length unavailable for this scheme")

def lastModified (h : UrlHandle) : Attempt Instant := do
  if h.isHttp then
    let value ← h.header "last-modified"
    match MailDate.parse value with
    | .ok i => pure i
    | .error c =>
      throw (.resolution h.description s!"invalid last-modified '{value}': {c.message}")
  else match h.localPath? with
    | some p => return (← .onDisk (h.metadata p "last_modified")).modified
    | none => throw (.resolution h.description "modification time unavailable for this scheme")

/-- The reference is read against the URL. A backslash separates as a slash does. -/
def relative (h : UrlHandle) (path : String) : Except Failure UrlHandle :=
  if path = "" then .error (.resolution h.description "empty relative path")
  else match h.url.join (.ofList (Path.unify path.toList)) with
    | .ok u => .ok { h with url := u }
    | .error c => .error (.resolution h.description s!"cannot apply '{path}': {c.message}")

def fileName (h : UrlHandle) : Option String := h.url.fileName

def resource (h : UrlHandle) : Resource where
  kind := .url
  description := h.description
  present := h.present
  readable := h.readable
  isFile := pure h.isFile
  url := pure h.url
  file := .ofExcept h.file
  openStream := h.openStream
  contentLength := h.contentLength
  lastModified := h.lastModified
  relative path := .url <$> Attempt.ofExcept (h.relative path)
  fileName := h.fileName

end Resources.UrlHandle

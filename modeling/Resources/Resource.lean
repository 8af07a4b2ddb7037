import Resources.Handle.Basic
import Resources.Settings

/-! Resources: what can be asked of any of them, and what follows from the answers. -/
namespace Resources

/-- Reads a stream to its end. -/
def drain (operation description : String) (s : Stream) : Attempt Bytes :=
  .onDisk fun d => (s.take d none).1.mapError (Failure.ofFault operation description)

/-- A resource is what it answers. The answers with a default rest on those without; nothing needs
to be there for a resource to be. -/
structure Resource where
  kind : Kind
  description : String
  present : Act Bool
  url : Attempt Url
  openStream : Attempt Stream
  lastModified : Attempt Instant
  readable : Act Bool := present
  isOpen : Bool := false
  isFile : Act Bool := pure false
  uri : Attempt Url := url
  file : Attempt FilePath := throw (.notFound description)
  openChannel : Attempt Channel := Channel.ofStream <$> openStream
  contentLength : Attempt Nat := do
    return (← drain "content_length" description (← openStream)).length
  relative : String → Attempt Handle := fun _ => throw (.notSupported "create_relative" description)
  fileName : Option String := none

namespace Resource

/-- The whole content. -/
def readBytes (r : Resource) : Attempt Bytes := do
  drain "read" r.description (← r.openStream)

def badData (operation description reason : String) : Failure :=
  .io operation description ⟨.invalidData, reason⟩

/-- The whole content, which must be text. -/
def readText (r : Resource) : Attempt String := do
  match Utf8.decode (← r.readBytes) with
  | .ok cs => pure (.ofList cs)
  | .error m => throw (badData "read_to_string" r.description m.message)

/-- The whole content, which must be one JSON value. Reading stops where it cannot be. -/
def readJson {α : Type} (r : Resource) (scan : Json.Scan α) : Attempt α := do
  let s ← r.openStream
  .onDisk fun d =>
    let (rest, ending) := s.remaining d
    (Json.readFeed scan ⟨rest, ending⟩).mapError fun stop =>
      badData "read_json" r.description (stop.message true rest)

def readValue (r : Resource) : Attempt Json.Value := r.readJson Json.anyValue

def readSettings (r : Resource) : Attempt Settings := r.readJson Settings.scan

end Resource

end Resources

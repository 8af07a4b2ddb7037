import Resources.Proofs.Resource.Reading

/-! Calls on a resource, and runs of them. A call asks a question, addresses another resource, or
takes the content. Taking opens a stream, and all that comes of it comes of that stream. -/
namespace Resources

/-- What can be asked about a resource. -/
inductive Question : Type → Type where
  | present : Question Bool
  | readable : Question Bool
  | isOpen : Question Bool
  | isFile : Question Bool
  | url : Question (Except Failure Url)
  | uri : Question (Except Failure Url)
  | file : Question (Except Failure FilePath)
  | contentLength : Question (Except Failure Nat)
  | lastModified : Question (Except Failure Instant)
  | fileName : Question (Option String)
  | description : Question String
  | kind : Question Kind

/-- The ways to take the content of a resource. JSON is taken as any type that can be scanned. -/
inductive Taking : Type → Type 1 where
  | stream : Taking Stream
  | channel : Taking Channel
  | bytes : Taking Bytes
  | text : Taking String
  | json {α : Type} (scan : Json.Scan α) : Taking α

/-- All that can be called on a resource, by the type of the answer. -/
inductive Call : Type → Type 1 where
  | ask {α : Type} (q : Question α) : Call α
  | relative (path : String) : Call (Except Failure Handle)
  | take {α : Type} (t : Taking α) : Call (Except Failure α)

def Call.takes {α : Type} : Call α → Bool
  | take _ => true
  | _ => false

/-- Calls one after the other, whatever their answers are. -/
abbrev Calls := List (Σ α : Type, Call α)

def Calls.takes (cs : Calls) : Bool := cs.any fun c => c.2.takes

/-- Content as text, which it must be. -/
def decoded (description : String) (b : Bytes) : Except Failure String :=
  ((Utf8.decode b).map .ofList).mapError fun m =>
    Resource.badData "read_to_string" description m.message

/-- What a taking makes of an open stream. -/
def Taking.ofStream (description : String) (d : Disk) (s : Stream) :
    {α : Type} → Taking α → Except Failure α
  | _, stream => .ok s
  | _, channel => .ok (.ofStream s)
  | _, bytes => (s.take d none).1.mapError (Failure.ofFault "read" description)
  | _, text => do
    decoded description (← (s.take d none).1.mapError (Failure.ofFault "read" description))
  | _, json scan =>
    (Json.readFeed scan ⟨(s.remaining d).1, (s.remaining d).2⟩).mapError fun stop =>
      Resource.badData "read_json" description (stop.message true (s.remaining d).1)

namespace Resource

variable {α : Type} {r : Resource} {w w' : World}

def ask (r : Resource) : {α : Type} → Question α → Act α
  | _, .present => r.present
  | _, .readable => r.readable
  | _, .isOpen => pure r.isOpen
  | _, .isFile => r.isFile
  | _, .url => r.url.run
  | _, .uri => r.uri.run
  | _, .file => r.file.run
  | _, .contentLength => r.contentLength.run
  | _, .lastModified => r.lastModified.run
  | _, .fileName => pure r.fileName
  | _, .description => pure r.description
  | _, .kind => pure r.kind

def take (r : Resource) : {α : Type} → Taking α → Attempt α
  | _, .stream => r.openStream
  | _, .channel => r.openChannel
  | _, .bytes => r.readBytes
  | _, .text => r.readText
  | _, .json scan => r.readJson scan

def call (r : Resource) : {α : Type} → Call α → Act α
  | _, .ask q => r.ask q
  | _, .relative path => (r.relative path).run
  | _, .take t => (r.take t).run

/-- The world behind a run of calls. -/
def run (r : Resource) (w : World) (cs : Calls) : World :=
  cs.foldl (fun w c => (r.call c.2 w).2) w

theorem run_cons (c : Σ α : Type, Call α) (cs : Calls) :
    r.run w (c :: cs) = r.run (r.call c.2 w).2 cs := rfl

/-- Channels are opened by opening a stream. -/
def StreamsChannels (r : Resource) : Prop := r.openChannel = Channel.ofStream <$> r.openStream

/-- What is taken comes of the stream that was opened for it. -/
theorem take_of_open {s : Stream} (hc : r.StreamsChannels) (h : r.openStream w = (.ok s, w'))
    (t : Taking α) : r.take t w = (t.ofStream r.description w'.disk s, w') := by
  cases t with
  | stream => exact h
  | channel =>
    rw [take, hc]
    exact Attempt.map_of_ok _ h
  | bytes => exact readBytes_of_open h
  | text =>
    have hb := readBytes_of_open h
    rw [take, Taking.ofStream, readText]
    cases ht : (s.take w'.disk none).1.mapError (Failure.ofFault "read" r.description) with
    | error f =>
      rw [ht] at hb
      exact Attempt.bind_of_error _ hb
    | ok b =>
      rw [ht] at hb
      rw [Attempt.bind_of_ok _ hb]
      simp only [bind, Except.bind, decoded]
      cases Utf8.decode b <;> rfl
  | json scan => exact Attempt.bind_of_ok _ h

theorem take_of_open_error {f : Failure} (hc : r.StreamsChannels)
    (h : r.openStream w = (.error f, w')) (t : Taking α) : r.take t w = (.error f, w') := by
  cases t with
  | stream => exact h
  | channel =>
    rw [take, hc]
    exact Attempt.map_of_error _ h
  | bytes => exact readBytes_of_open_error h
  | text => exact Attempt.bind_of_error _ (readBytes_of_open_error h)
  | json scan => exact Attempt.bind_of_error _ h

end Resource

end Resources

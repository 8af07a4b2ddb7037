import Resources.Disk

/-! Open streams and buffered channels: bytes that come in reads, and then an end or a fault. -/
namespace Resources

/-- Bytes still to come. One read gives no more than the limit, if there is one; behind the last
byte stands an end, or a fault at every further read. No source has a fault of kind `interrupted`: that
one asks for the same read once more. -/
structure Source where
  rest : Bytes
  limit : Option Nat
  ending : Option Fault
  deriving DecidableEq, Repr

namespace Source

def ofBytes (b : Bytes) : Source := ⟨b, none, none⟩

/-- One read of at most `n` bytes. -/
def read (s : Source) (n : Nat) : Except Fault (Bytes × Source) :=
  match s.rest, s.ending with
  | [], some f => .error f
  | _, _ =>
    let n := min n (s.limit.getD n)
    .ok (s.rest.take n, { s with rest := s.rest.drop n })

end Source

/-- An open stream. A file is read from its body as that is at the time of the read. -/
inductive Stream where
  | source (s : Source)
  | file (body offset : Nat)
  | directory
  deriving DecidableEq, Repr

namespace Stream

def ofBytes (b : Bytes) : Stream := source (.ofBytes b)

/-- What is left to read, and the fault behind it if there is one. -/
def remaining (d : Disk) : Stream → Bytes × Option Fault
  | source s => (s.rest, s.ending)
  | file body offset => ((d.body body).content.drop offset, none)
  | directory => ([], some .directory)

/-- One read of at most `n` bytes. -/
def read (d : Disk) (s : Stream) (n : Nat) : Except Fault (Bytes × Stream) :=
  match s with
  | source s => (s.read n).map fun (b, s) => (b, source s)
  | file body offset =>
    let b := ((d.body body).content.drop offset).take n
    .ok (b, file body (offset + b.length))
  | directory => .error .directory

/-- One read asks for this many bytes where the caller names no number. -/
def portion : Nat := 8192

/-- Reads on until `n` bytes are there, or the end is. A fault loses the bytes before it. One of kind
`interrupted` would end the reading too, where it should be tried again; no source has it. -/
def gather (d : Disk) : Nat → Option Nat → Stream → Except Fault Bytes × Stream
  | 0, _, s => (.ok [], s)
  | fuel + 1, n, s =>
    if n = some 0 then (.ok [], s)
    else match s.read d (n.getD portion) with
      | .error f => (.error f, s)
      | .ok ([], s) => (.ok [], s)
      | .ok (b, s) =>
        let (r, s) := gather d fuel (n.map (· - b.length)) s
        (r.map (b ++ ·), s)

/-- The next `n` bytes, or all that are left if no number is given. -/
def take (d : Disk) (n : Option Nat) (s : Stream) : Except Fault Bytes × Stream :=
  gather d (s.remaining d).1.length.succ n s

end Stream

/-- A stream with bytes read ahead of the caller. -/
structure Channel where
  buffer : Bytes
  stream : Stream
  deriving DecidableEq, Repr

namespace Channel

def ofStream (s : Stream) : Channel := ⟨[], s⟩

/-- All the bytes are there from the start. -/
def ofBytes (b : Bytes) : Channel := ⟨b, .ofBytes []⟩

def remaining (d : Disk) (c : Channel) : Bytes × Option Fault :=
  let (rest, ending) := c.stream.remaining d
  (c.buffer ++ rest, ending)

/-- The bytes at hand. Only when there are none is the stream read, once. -/
def fill (d : Disk) (c : Channel) : Except Fault Channel :=
  if c.buffer = [] then (c.stream.read d Stream.portion).map fun (b, s) => ⟨b, s⟩
  else .ok c

/-- One read of at most `n` bytes. It takes from the bytes at hand; where there are none, a read for
a portion or more goes past the buffer. -/
def read (d : Disk) (c : Channel) (n : Nat) : Except Fault (Bytes × Channel) :=
  if c.buffer = [] ∧ Stream.portion ≤ n then
    (c.stream.read d n).map fun (b, s) => (b, ofStream s)
  else (c.fill d).map fun c => (c.buffer.take n, { c with buffer := c.buffer.drop n })

def gather (d : Disk) : Nat → Option Nat → Channel → Except Fault Bytes × Channel
  | 0, _, c => (.ok [], c)
  | fuel + 1, n, c =>
    if n = some 0 then (.ok [], c)
    else match c.fill d with
      | .error f => (.error f, c)
      | .ok ⟨[], s⟩ => (.ok [], ⟨[], s⟩)
      | .ok ⟨b, s⟩ =>
        let m := n.getD b.length
        let (r, c) := gather d fuel (n.map (· - b.length)) ⟨b.drop m, s⟩
        (r.map (b.take m ++ ·), c)

/-- The next `n` bytes, or all that are left if no number is given. -/
def take (d : Disk) (n : Option Nat) (c : Channel) : Except Fault Bytes × Channel :=
  gather d (c.remaining d).1.length.succ n c

def newline : UInt8 := 0x0A

/-- The bytes through the first newline, and those after it. -/
def cutLine : Bytes → Option (Bytes × Bytes)
  | [] => none
  | b :: r =>
    if b = newline then some ([b], r) else (cutLine r).map fun (line, rest) => (b :: line, rest)

def gatherLine (d : Disk) : Nat → Channel → Except Fault Bytes × Channel
  | 0, c => (.ok [], c)
  | fuel + 1, c =>
    match c.fill d with
    | .error f => (.error f, c)
    | .ok ⟨[], s⟩ => (.ok [], ⟨[], s⟩)
    | .ok ⟨b, s⟩ =>
      match cutLine b with
      | some (line, rest) => (.ok line, ⟨rest, s⟩)
      | none =>
        let (r, c) := gatherLine d fuel ⟨[], s⟩
        (r.map (b ++ ·), c)

/-- The bytes through the next newline, or to the end. -/
def takeLine (d : Disk) (c : Channel) : Except Fault Bytes × Channel :=
  gatherLine d (c.remaining d).1.length.succ c

def notText : Fault := ⟨.invalidData, "stream did not contain valid UTF-8"⟩

/-- A line without its ending. -/
def lineText (b : Bytes) : Except Fault String :=
  match Utf8.decode? b with
  | none => .error notText
  | some cs =>
    let cs := cs.reverse
    .ok (.ofList (match cs with
      | '\n' :: '\r' :: r => r
      | '\n' :: r => r
      | _ => cs).reverse)

def gatherLines (d : Disk) : Nat → Channel → List String × Option Fault
  | 0, _ => ([], none)
  | fuel + 1, c =>
    match gatherLine d (fuel + 1) c with
    | (.error f, _) => ([], some f)
    | (.ok [], _) => ([], none)
    | (.ok b, c) =>
      match lineText b with
      | .error f => ([], some f)
      | .ok line =>
        let (lines, ending) := gatherLines d fuel c
        (line :: lines, ending)

/-- All lines up to the end, or to the first that cannot be read. -/
def lines (d : Disk) (c : Channel) : List String × Option Fault :=
  gatherLines d (c.remaining d).1.length.succ c

end Channel

end Resources

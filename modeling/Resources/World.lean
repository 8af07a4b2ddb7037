import Resources.Failure
import Resources.Stream
import Resources.Web

/-! The world that operations act on, and what can happen in it. -/
namespace Resources

/-- The disk, the web, and what operations leave behind: requests sent, clients that have been
built, single-use streams that have been taken, and the next unused identity. -/
structure World where
  disk : Disk
  web : Web
  sent : List Request
  built : List Nat
  taken : List Nat
  next : Nat

abbrev Act := StateM World

/-- A failed attempt keeps what it did to the world. -/
abbrev Attempt := ExceptT Failure Act

namespace Act

/-- An identity that nothing else has. -/
def fresh : Act Nat := modifyGet fun w => (w.next, { w with next := w.next + 1 })

/-- A question to the disk. -/
def onDisk {α : Type} (f : Disk → α) : Act α := fun w => (f w.disk, w)

end Act

namespace Attempt

/-- A question to the disk that can fail. -/
def onDisk {α : Type} (f : Disk → Except Failure α) : Attempt α := fun w => (f w.disk, w)

/-- An answer that needs nothing of the world. -/
def ofExcept {α : Type} (e : Except Failure α) : Attempt α := fun w => (e, w)

/-- Did it succeed? -/
def succeeds {α : Type} (a : Attempt α) : Act Bool := do
  match ← a.run with
  | .ok _ => pure true
  | .error _ => pure false

end Attempt

/-- What requests are sent with. Handles of one loader share a client, which is built when it is
first used. -/
structure Client where
  id : Nat
  timeout : Duration
  deriving DecidableEq, Repr

namespace Client

def fresh (timeout : Duration) : Act Client := return ⟨← Act.fresh, timeout⟩

def isBuilt (c : Client) (w : World) : Bool := c.id ∈ w.built

def build (c : Client) : Act Unit :=
  modify fun w => if c.isBuilt w then w else { w with built := c.id :: w.built }

def fetch (c : Client) (m : Method) (u : Url) : Act (Except WebFailure Response) := do
  c.build
  modifyGet fun w =>
    let (outcome, sent) := w.web.fetch m u
    (outcome, { w with sent := w.sent ++ sent })

/-- A client as diagnostics show it. -/
def shown (c : Client) (w : World) : String :=
  "HttpClient \x7b timeout: " ++ c.timeout.text ++ s!", built: {c.isBuilt w} \x7d"

end Client

end Resources

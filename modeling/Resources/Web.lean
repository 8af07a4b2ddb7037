import Resources.Fault
import Resources.Url.Parser

/-! The web as requests meet it: a table of answers, redirects, and failures on the way. -/
namespace Resources

inductive Method where
  | get
  | head
  deriving DecidableEq, Repr

def Method.text : Method → String
  | get => "GET"
  | head => "HEAD"

structure Request where
  method : Method
  url : String
  deriving DecidableEq, Repr

def Request.text (r : Request) : String := s!"{r.method.text} {r.url}"

/-- What comes back. A body may break off in a fault. -/
structure Response where
  status : Nat
  headers : List (String × Bytes)
  body : Bytes
  ending : Option Fault
  deriving DecidableEq, Repr

namespace Response

def isSuccess (r : Response) : Bool := 200 ≤ r.status && r.status < 300

/-- The first value of a header. The case of names does not count. -/
def header? (r : Response) (name : String) : Option Bytes := r.headers.lookup name

/-- A header value that is visible text. -/
def headerText? (r : Response) (name : String) : Option String :=
  (r.header? name).bind fun b =>
    if b.all fun x => x = 0x09 || (0x20 ≤ x && x < 0x7F) then
      some (.ofList (b.map fun x => Char.ofNat x.toNat))
    else none

end Response

/-- An answer that stands ready for one request. -/
structure Answer where
  request : String
  status : Nat
  headers : List (Bytes × Bytes)
  body : Bytes
  dropped : Bool
  deriving DecidableEq, Repr

namespace Answer

def isBlank (b : UInt8) : Bool := b = 0x20 || b = 0x09

def trimmed (b : Bytes) : Bytes := ((b.dropWhile isBlank).reverse.dropWhile isBlank).reverse

def headerName (b : Bytes) : String :=
  .ofList ((Utf8.decodeLossy b).map Char.toLower)

def brokenBody : Fault := ⟨.other, "request or response body error"⟩

/-- A number in decimal digits. -/
def number? (t : List Char) : Option Nat :=
  if t ≠ [] ∧ t.all Char.isDigit then some (t.foldl (fun n c => n * 10 + (c.toNat - 0x30)) 0)
  else none

/-- The announced length cuts a longer body; a shorter one breaks off. -/
def bodyOf (length : Option Nat) (body : Bytes) : Bytes × Option Fault :=
  match length with
  | none => (body, none)
  | some n => (body.take n, if body.length < n then some brokenBody else none)

/-- A request for the head alone gets no body. -/
def response (m : Method) (a : Answer) : Response :=
  let headers := a.headers.map fun (n, v) => (headerName n, trimmed v)
  let length := (headers.lookup "content-length").bind fun v => number? (Utf8.decodeLossy v)
  match m with
  | .head => ⟨a.status, headers, [], none⟩
  | .get =>
    let (body, ending) := bodyOf length a.body
    ⟨a.status, headers, body, ending⟩

end Answer

/-- A web that is out of reach answers nothing. -/
structure Web where
  answers : List Answer
  inReach : Bool
  deriving Repr

inductive WebFailure where
  | send (url : String)
  | redirects (url : String)
  | malformed (url : String)
  deriving DecidableEq, Repr

def WebFailure.message : WebFailure → String
  | send url => s!"error sending request for url ({url})"
  | redirects url => s!"error following redirect for url ({url})"
  | malformed url => s!"builder error for url ({url})"

namespace Web

def redirectLimit : Nat := 10

def missing : Response := ⟨404, [], [], none⟩

/-- The URL without the parts that are not sent. -/
def sentUrl (u : Url) : Url :=
  { u with
    authority := u.authority.map fun a => { a with username := [], password := none }
    fragment := none }

def requestOf (m : Method) (u : Url) : Request := ⟨m, (sentUrl u).text⟩

/-- The URL that a failure names: without the user, unless the name of the user is no text. -/
def namedUrl (u : Url) : Url :=
  { u with authority := u.authority.map fun a =>
      if (Utf8.decode? (Percent.decode a.username)).isSome then
        { a with username := [], password := none }
      else a }

def lengthLimit : Nat := 65534

/-- Can the URL be sent at all? Some domains hold characters that no request may. -/
def isSendable (u : Url) : Bool :=
  (namedUrl u).chars.length ≤ lengthLimit &&
    match u.host? with
    | some h => h.text.all fun c => c ∉ ['"', '\x60', '\x7b', '\x7d']
    | none => false

def isRedirect (status : Nat) : Bool := status ∈ [301, 302, 303, 307, 308]

/-- Where a response sends on to. -/
def target? (u : Url) (r : Response) : Option Url :=
  if isRedirect r.status then
    (r.header? "location").bind fun b =>
      (Utf8.decode? b).bind fun t => (u.join (.ofList t)).toOption
  else none

/-- One request without redirects. Only plain requests reach the table. -/
def ask (w : Web) (m : Method) (u : Url) : Except WebFailure Response × List Request :=
  let failed : WebFailure := .send (namedUrl u).text
  if ¬ w.inReach ∨ u.hasScheme "https" then (.error failed, [])
  else
    let request := requestOf m u
    match w.answers.find? (·.request = request.text) with
    | some a => (if a.dropped then .error failed else .ok (a.response m), [request])
    | none => (.ok missing, [request])

/-- Follows redirects, at most so many. -/
def follow (w : Web) (m : Method) : Nat → Url → Except WebFailure Response × List Request
  | n, u =>
    if ¬ isSendable u then (.error (.malformed (namedUrl u).text), [])
    else match w.ask m u with
      | (.error f, sent) => (.error f, sent)
      | (.ok r, sent) =>
        match target? u r with
        | none => (.ok r, sent)
        | some v =>
          match n with
          | 0 => (.error (.redirects (namedUrl u).text), sent)
          | n + 1 =>
            if ¬ v.isHttp then (.error (.malformed (namedUrl u).text), sent)
            else
              let (outcome, more) := follow w m n v
              (outcome, sent ++ more)

/-- The outcome of a request, and all that was sent for it, in order. -/
def fetch (w : Web) (m : Method) (u : Url) : Except WebFailure Response × List Request :=
  w.follow m redirectLimit u

end Web

end Resources

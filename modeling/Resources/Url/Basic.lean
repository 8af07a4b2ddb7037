import Resources.Url.Address
import Resources.Url.Percent

/-! URLs, in parts and as text. -/
namespace Resources

inductive Host where
  | domain (name : List Char)
  | ipv4 (address : Nat)
  | ipv6 (pieces : List Nat)
  deriving DecidableEq, Repr

def Host.text : Host → List Char
  | domain name => name
  | ipv4 address => Ipv4.text address
  | ipv6 pieces => '[' :: Ipv6.text pieces ++ [']']

/-- Who is asked. A missing host is written as nothing; the port is left out where the scheme
implies it. -/
structure Authority where
  username : List Char
  password : Option (List Char)
  host : Option Host
  port : Option Nat
  deriving DecidableEq, Repr

namespace Authority

def unnamed : Authority := ⟨[], none, none, none⟩

def userinfo (a : Authority) : List Char :=
  match a.username, a.password with
  | [], none => []
  | user, none => user ++ ['@']
  | user, some p => user ++ ':' :: p ++ ['@']

def hostText (a : Authority) : List Char :=
  ((a.host.map Host.text).getD []) ++
    match a.port with
    | some p => ':' :: Nat.toDigits 10 p
    | none => []

def text (a : Authority) : List Char := a.userinfo ++ a.hostText

end Authority

namespace Url

abbrev Segment := List Char

/-- A path of segments, each behind a slash, or plain text in which a slash means nothing. -/
inductive Path where
  | segments (ss : List Segment)
  | plain (t : List Char)
  deriving DecidableEq, Repr

def Path.text : Path → List Char
  | segments ss => ss.flatMap ('/' :: ·)
  | plain t => t

end Url

structure Url where
  scheme : List Char
  authority : Option Authority
  path : Url.Path
  query : Option (List Char)
  fragment : Option (List Char)
  deriving DecidableEq, Repr

namespace Url

/-- How a scheme is read: file URLs are local, web URLs always have a host. -/
inductive Family where
  | file
  | web
  | other
  deriving DecidableEq, Repr

def Family.isSpecial (f : Family) : Bool := f ≠ other

def defaultPorts : List (String × Nat) :=
  [("http", 80), ("https", 443), ("ws", 80), ("wss", 443), ("ftp", 21)]

def defaultPort (scheme : List Char) : Option Nat := defaultPorts.lookup (.ofList scheme)

def family (scheme : List Char) : Family :=
  if String.ofList scheme = "file" then .file
  else if (defaultPort scheme).isSome then .web
  else .other

def hasScheme (u : Url) (name : String) : Bool := String.ofList u.scheme = name

def isFile (u : Url) : Bool := u.hasScheme "file"

def isHttp (u : Url) : Bool := u.hasScheme "http" || u.hasScheme "https"

/-- A path that begins with two slashes must not look like an authority. -/
def frontChars (u : Url) : List Char :=
  match u.authority with
  | some a => '/' :: '/' :: a.text
  | none =>
    match u.path with
    | .segments ([] :: _ :: _) => ['/', '.']
    | _ => []

def optional (mark : Char) : Option (List Char) → List Char
  | some t => mark :: t
  | none => []

def chars (u : Url) : List Char :=
  u.scheme ++ ':' :: u.frontChars ++ u.path.text ++ optional '?' u.query ++ optional '#' u.fragment

def text (u : Url) : String := .ofList u.chars

def host? (u : Url) : Option Host := u.authority.bind (·.host)

/-- The last segment that is not empty. -/
def fileName (u : Url) : Option String :=
  ((u.path.text.splitOn '/').reverse.find? (· ≠ [])).map .ofList

end Url

end Resources

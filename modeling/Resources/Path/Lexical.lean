/-! Paths as text: cleaning, relative composition and the last segment. Nothing is looked up. -/
namespace Resources.Path

/-- Text between two separators. -/
abbrev Segment := List Char

/-- A backslash separates as a slash does. -/
def unify (p : List Char) : List Char := p.map fun c => if c = '\\' then '/' else c

/-- One ASCII letter before a colon is a drive; the rest is the path on it. -/
def splitDrive : List Char → List Char × List Char
  | c :: ':' :: r => if c.isAlpha then ([c, ':'], r) else ([], c :: ':' :: r)
  | p => ([], p)

def segments (p : List Char) : List Segment := p.splitOn '/'

def here : Segment := ['.']

def up : Segment := ['.', '.']

/-- One segment onto the stack, innermost first. A rooted path has nowhere to climb from its root;
a relative one keeps the climb. -/
def push (rooted : Bool) (stack : List Segment) (s : Segment) : List Segment :=
  if s = [] ∨ s = here then stack
  else if s = up then
    match stack with
    | [] => if rooted then [] else [up]
    | top :: below => if top ≠ up then below else if rooted then top :: below else up :: top :: below
  else s :: stack

/-- A path in its simplest spelling. -/
structure Lexical where
  drive : List Char
  rooted : Bool
  names : List Segment
  trailing : Bool
  deriving DecidableEq, Repr

namespace Lexical

/-- A lone slash is the root and not a trailing separator. -/
def ofText (p : List Char) : Lexical :=
  let (drive, rest) := splitDrive (unify p)
  let rooted := rest.head? == some '/'
  let names := ((segments rest).foldl (push rooted) []).reverse
  ⟨drive, rooted, names, 1 < rest.length && rest.getLast? == some '/'⟩

def text (l : Lexical) : List Char :=
  l.drive ++ (if l.rooted then ['/'] else []) ++ List.intercalate ['/'] l.names ++
    (if l.trailing && !l.names.isEmpty then ['/'] else [])

end Lexical

/-- The simplest spelling of a path. -/
def cleanText (p : List Char) : List Char := (Lexical.ofText p).text

def clean (p : String) : String := .ofList (cleanText p.toList)

/-- Everything through the last slash. -/
def directory (p : List Char) : List Char := (p.reverse.dropWhile (· ≠ '/')).reverse

/-- A rooted path replaces the base; any other is read from the directory of the base. There is
nothing to resolve in an empty one. -/
def relativeText (base relative : List Char) : Option (List Char) :=
  if relative = [] then none
  else if (unify relative).head? = some '/' then some (cleanText (unify relative))
  else some (cleanText (directory (unify base) ++ unify relative))

def relative (base rel : String) : Option String :=
  (relativeText base.toList rel.toList).map .ofList

/-- The last segment that is not empty. -/
def lastName (p : String) : Option String :=
  ((segments (unify p.toList)).reverse.find? (· ≠ [])).map .ofList

end Resources.Path

import Resources.Domain.Ascii
import Resources.Url.Basic

/-! Reading URLs, alone or against a base. -/
namespace Resources.Url

inductive Cause where
  | emptyHost
  | badPort
  | badIpv4
  | badIpv6
  | badHostCharacter
  | badDomain
  | noBase
  | plainBase
  deriving DecidableEq, Repr

def Cause.message : Cause → String
  | emptyHost => "empty host"
  | badPort => "invalid port number"
  | badIpv4 => "invalid IPv4 address"
  | badIpv6 => "invalid IPv6 address"
  | badHostCharacter => "invalid domain character"
  | badDomain => "invalid international domain name"
  | noBase => "relative URL without a base"
  | plainBase => "relative URL with a cannot-be-a-base base"

/-- Blanks around a URL, and tabs and line ends anywhere in it, do not count. -/
def strip (t : List Char) : List Char :=
  let blank (c : Char) : Bool := c.toNat ≤ 0x20
  let t := ((t.dropWhile blank).reverse.dropWhile blank).reverse
  t.filter fun c => c ≠ '\t' && c ≠ '\n' && c ≠ '\r'

def isSchemeChar (c : Char) : Bool := c.isAlphanum || c = '+' || c = '-' || c = '.'

/-- A scheme in lower case, and what follows its colon. -/
def scheme? (t : List Char) : Option (List Char × List Char) :=
  if (t.head?.any Char.isAlpha) then
    match t.span isSchemeChar with
    | (s, ':' :: r) => some (s.map Char.toLower, r)
    | _ => none
  else none

def isSlash (c : Char) : Bool := c = '/' || c = '\\'

/-- Does the character end an authority? -/
def endsAuthority (special : Bool) (c : Char) : Bool :=
  c = '/' || c = '?' || c = '#' || (special && c = '\\')

/-! ### Host -/

/-- A domain or an address. -/
def hostOf (t : List Char) : Except Cause Host := do
  match t with
  | '[' :: r =>
    if r.getLast? ≠ some ']' then throw .badIpv6
    match Ipv6.parse? r.dropLast with
    | some ps => pure (.ipv6 ps)
    | none => throw .badIpv6
  | _ =>
    let some name := Domain.toAscii? (Percent.decode t) | throw .badDomain
    if name = [] then throw .emptyHost
    if Ipv4.isNumeric name then
      match Ipv4.parse? name with
      | some n => pure (.ipv4 n)
      | none => throw .badIpv4
    else pure (.domain name)

def isForbiddenHostChar (c : Char) : Bool :=
  c ∈ ['\x00', '\t', '\n', '\r', ' ', '#', '/', ':', '<', '>', '?', '@', '[', '\\', ']', '^', '|']

/-- The host of a scheme that is not known, which is kept as it is written. -/
def plainHostOf (t : List Char) : Except Cause (Option Host) :=
  match t with
  | [] => pure none
  | '[' :: _ => some <$> hostOf t
  | _ =>
    if t.any isForbiddenHostChar then throw .badHostCharacter
    else pure (some (.domain (Percent.encode Percent.control t)))

/-- The host ends at a port or at the end of the authority. A colon in brackets is part of it. -/
def splitHost (special : Bool) : Bool → List Char → List Char × List Char
  | _, [] => ([], [])
  | bracketed, c :: r =>
    if (c = ':' && !bracketed) || endsAuthority special c then ([], c :: r)
    else
      let (h, rest) := splitHost special (c = '[' || (bracketed && c ≠ ']')) r
      (c :: h, rest)

/-! ### Authority -/

def portOf (scheme : List Char) (t : List Char) : Except Cause (Option Nat × List Char) := do
  let (digits, rest) := t.span Char.isDigit
  let n := digits.foldl (fun n c => n * 10 + (c.toNat - 0x30)) 0
  if 65535 < n then throw .badPort
  match rest.head? with
  | some c => unless endsAuthority true c do throw .badPort
  | none => pure ()
  pure (if digits = [] ∨ defaultPort scheme = some n then none else some n, rest)

/-- The text before the last `@`, and the text after it. -/
def splitUser (t : List Char) : Option (List Char × List Char) :=
  if '@' ∈ t then
    let after := (t.reverse.takeWhile (· ≠ '@')).reverse
    some (t.take (t.length - after.length - 1), after)
  else none

/-- User and password. A password that is empty is none. -/
def userOf (t : List Char) : List Char × Option (List Char) :=
  let (user, rest) := t.span (· ≠ ':')
  let password := rest.drop 1
  (Percent.encode Percent.userinfoSet user,
    if password = [] then none else some (Percent.encode Percent.userinfoSet password))

/-- What stands behind two slashes, up to the path. -/
def authorityOf (family : Family) (scheme : List Char) (t : List Char) :
    Except Cause (Authority × List Char) := do
  let special := family.isSpecial
  let (region, beyond) := t.span fun c => !endsAuthority special c
  let ((user, password), t) ← match splitUser region with
    | none => pure (([], none), t)
    | some ([], after) =>
      if after = [] ∧ beyond ≠ [] then throw .emptyHost
      pure (([], none), after ++ beyond)
    | some (before, after) => pure (userOf before, after ++ beyond)
  let (h, rest) := splitHost special false t
  let host ← if special then
      if h = [] then throw .emptyHost
      some <$> hostOf h
    else plainHostOf h
  if host = none ∧ rest.head? = some ':' then throw .emptyHost
  let (port, rest) ← match rest with
    | ':' :: r => portOf scheme r
    | _ => pure (none, rest)
  if host = none ∧ (user ≠ [] ∨ password ≠ none) then throw .emptyHost
  pure (⟨user, password, host, port⟩, rest)

/-! ### Path -/

/-- A letter and a colon, or a bar in its place. -/
def isDrive : Segment → Bool
  | [c, m] => c.isAlpha && (m = ':' || m = '|')
  | _ => false

def isPlainDrive : Segment → Bool
  | [c, m] => c.isAlpha && m = ':'
  | _ => false

/-- Segments up to the query or fragment, as they are written; there is always one. -/
def splitPath (special : Bool) : List Char → List Segment × List Char
  | [] => ([[]], [])
  | c :: r =>
    if c = '?' ∨ c = '#' then ([[]], c :: r)
    else
      let (ss, rest) := splitPath special r
      if c = '/' ∨ (special ∧ c = '\\') then ([] :: ss, rest)
      else match ss with
        | s :: ss => ((c :: s) :: ss, rest)
        | [] => ([[c]], rest)

/-- A dot may be written as its percent code. -/
def plainDots : Segment → Segment
  | '%' :: '2' :: c :: r => if c = 'e' ∨ c = 'E' then '.' :: plainDots r else '%' :: '2' :: c :: r
  | c :: r => c :: plainDots r
  | [] => []

def isHere (s : Segment) : Bool := plainDots s = ['.']

def isUp (s : Segment) : Bool := plainDots s = ['.', '.']

/-- One step up from a stack of segments, innermost first. A drive is never left. -/
def climb : List Segment → List Segment
  | s :: above => if isDrive s then s :: above else above
  | [] => []

/-- The first segment of a local path may be a drive, and then it is written with a colon. Only behind
an authority without a host does it stay as it is: there `file` is false, see `keptPath`. -/
def driveForm (file : Bool) (stack : List Segment) (s : Segment) : Segment :=
  if file && stack = [] && isDrive s then s.take 1 ++ [':'] else s

/-- A segment with a slash behind it. -/
def descend (file : Bool) (stack : List Segment) (s : Segment) : List Segment :=
  if isUp s then climb stack
  else if isHere s then stack
  else driveForm file stack s :: stack

/-- The last segment. Dots leave an empty one. -/
def settle (file : Bool) (stack : List Segment) (s : Segment) : List Segment :=
  if isUp s then [] :: climb stack
  else if isHere s then [] :: stack
  else driveForm file stack s :: stack

/-- Segments one after the other, from the place that a stack stands for. -/
def walk (file : Bool) (stack : List Segment) : List Segment → List Segment
  | [] => stack
  | [s] => settle file stack s
  | s :: r => walk file (descend file stack s) r

/-- A local path does not begin with empty segments. -/
def trimmed (ss : List Segment) : List Segment :=
  match ss.dropWhile (· = []) with
  | [] => [[]]
  | ss => ss

/-- The segments of a path read from a place, and what follows it. -/
def segmentsFrom (special file : Bool) (stack : List Segment) (t : List Char) :
    List Segment × List Char :=
  let (raw, rest) := splitPath special t
  ((walk file stack (raw.map (Percent.encode Percent.pathSet))).reverse, rest)

def pathFrom (family : Family) (stack : List Segment) (t : List Char) : Path × List Char :=
  let (ss, rest) := segmentsFrom family.isSpecial (family = .file) stack t
  (.segments (if family = .file then trimmed ss else ss), rest)

/-- A local path behind an authority without a host. A drive with a bar is not written with a colon
there. -/
def keptPath (t : List Char) : Path × List Char :=
  let (ss, rest) := segmentsFrom true false [] t
  (.segments (trimmed ss), rest)

/-- The path behind an authority. -/
def pathStart (family : Family) (t : List Char) : Path × List Char :=
  match t with
  | [] => if family.isSpecial then (.segments [[]], []) else (.segments [], [])
  | c :: r =>
    if c = '/' ∨ (family.isSpecial ∧ c = '\\') then pathFrom family [] r
    else if ¬ family.isSpecial ∧ (c = '?' ∨ c = '#') then (.segments [], c :: r)
    else pathFrom family [] (c :: r)

/-! ### Query and fragment -/

def fragmentOf (t : List Char) : List Char := Percent.encode Percent.fragmentSet t

/-- What stands behind the path. -/
def tailOf (special : Bool) (t : List Char) : Option (List Char) × Option (List Char) :=
  match t with
  | '?' :: r =>
    let (q, f) := r.span (· ≠ '#')
    (some (Percent.encode (if special then Percent.specialQuerySet else Percent.querySet) q),
      match f with
      | [] => none
      | _ :: f => some (fragmentOf f))
  | '#' :: r => (none, some (fragmentOf r))
  | _ => (none, none)

def assemble (scheme : List Char) (authority : Option Authority) (p : Path × List Char) : Url :=
  let (query, fragment) := tailOf (family scheme).isSpecial p.2
  ⟨scheme, authority, p.1, query, fragment⟩

/-! ### Whole URLs -/

def afterSlashes (scheme : List Char) (t : List Char) : Except Cause Url := do
  let (a, rest) ← authorityOf (family scheme) scheme t
  pure (assemble scheme (some a) (pathStart (family scheme) rest))

/-- Does a drive come next, as a segment of its own? -/
def startsWithDrive (t : List Char) : Bool :=
  match t with
  | [c, m] => isDrive [c, m]
  | c :: m :: e :: _ => isDrive [c, m] && endsAuthority true e
  | _ => false

/-- The stack of a path without its last segment. The drive of a local path stays. -/
def parentStack (file : Bool) : Path → List Segment
  | .segments ss =>
    match ss.reverse with
    | s :: above => if file && isPlainDrive s then s :: above else above
    | [] => []
  | .plain _ => []

def fileScheme : List Char := "file".toList

/-- A local URL with two slashes. Its host may be missing, and a drive takes the place of one. -/
def fileAfterSlashes (t : List Char) : Except Cause Url := do
  let (h, rest) := t.span fun c => !endsAuthority true c
  if isDrive h then
    pure (assemble fileScheme (some .unnamed) (pathFrom .file [] t))
  else
    let host ← if h = [] then pure none else some <$> hostOf h
    let below := if rest.head?.any isSlash then rest.tail else rest
    if host = none ∨ host = some (.domain "localhost".toList) then
      pure (assemble fileScheme (some .unnamed) (keptPath below))
    else
      let hasDrive := (segmentsFrom true true [] below).1.head?.any isPlainDrive
      pure (assemble fileScheme (some ⟨[], none, if hasDrive then none else host, none⟩)
        (pathFrom .file [] below))

/-- A local URL behind its scheme, or without one against a base. -/
def fileUrl (base : Option Url) (t : List Char) : Except Cause Url := do
  match t with
  | c :: r =>
    if isSlash c then
      match r with
      | d :: r' =>
        if isSlash d then return ← fileAfterSlashes r'
      | [] => pure ()
      let first := base.bind fun b => match b.path with
        | .segments ss => ss.head?
        | .plain _ => none
      if startsWithDrive r then
        pure (assemble fileScheme (some .unnamed) (pathFrom .file [] r))
      else match first.filter isPlainDrive with
        | some drive => pure (assemble fileScheme (some .unnamed) (pathFrom .file [drive] r))
        | none =>
          pure (assemble fileScheme (some ⟨[], none, base.bind host?, none⟩) (pathFrom .file [] r))
    else match base with
      | none => pure (assemble fileScheme (some .unnamed) (pathFrom .file [] t))
      | some b =>
        if c = '?' then pure (assemble fileScheme b.authority (b.path, t))
        else if c = '#' then pure { b with fragment := some (fragmentOf r) }
        else if startsWithDrive t then
          pure (assemble fileScheme (some .unnamed) (pathFrom .file [] t))
        else pure (assemble fileScheme b.authority (pathFrom .file (parentStack true b.path) t))
  | [] =>
    match base with
    | none => pure (assemble fileScheme (some .unnamed) (.segments [[]], []))
    | some b => pure { b with fragment := none }

/-- A reference without a scheme of its own, against a base that is not local. -/
def relativeUrl (b : Url) (t : List Char) : Except Cause Url :=
  let f := family b.scheme
  match t with
  | [] => pure { b with fragment := none }
  | '?' :: _ => pure (assemble b.scheme b.authority (b.path, t))
  | '#' :: r => pure { b with fragment := some (fragmentOf r) }
  | c :: r =>
    if isSlash c then
      match r with
      | d :: r' =>
        if isSlash d then
          afterSlashes b.scheme (if c = '/' ∧ d = '/' then r' else t.dropWhile isSlash)
        else pure (assemble b.scheme b.authority (pathFrom f [] r))
      | [] => pure (assemble b.scheme b.authority (pathFrom f [] r))
    else pure (assemble b.scheme b.authority (pathFrom f (parentStack false b.path) t))

/-- A URL behind its scheme. -/
def schemeUrl (base : Option Url) (scheme : List Char) (t : List Char) : Except Cause Url :=
  let base := base.filter (·.scheme = scheme)
  match family scheme with
  | .file => fileUrl base t
  | .web =>
    match base with
    | some b =>
      if (t.takeWhile isSlash).length < 2 then relativeUrl b t
      else afterSlashes scheme (t.dropWhile isSlash)
    | none => afterSlashes scheme (t.dropWhile isSlash)
  | .other =>
    match t with
    | '/' :: '/' :: r => afterSlashes scheme r
    | '/' :: r => pure (assemble scheme none (pathFrom .other [] r))
    | _ =>
      let (p, rest) := t.span fun c => c ≠ '?' && c ≠ '#'
      pure (assemble scheme none (.plain (Percent.encode Percent.control p), rest))

def read (base : Option Url) (t : List Char) : Except Cause Url :=
  let t := strip t
  match scheme? t, base with
  | some (scheme, rest), _ => schemeUrl base scheme rest
  | none, none => throw .noBase
  | none, some b =>
    match b.path, t with
    | .plain _, '#' :: r => pure { b with fragment := some (fragmentOf r) }
    | .plain _, _ => throw .plainBase
    | .segments _, _ => if b.isFile then fileUrl base t else relativeUrl b t

def parse (t : String) : Except Cause Url := read none t.toList

/-- The URL that a reference means when it is read against this one. -/
def join (u : Url) (reference : String) : Except Cause Url := read (some u) reference.toList

end Resources.Url

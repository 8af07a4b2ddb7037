import Resources.Time

/-! Dates as mail and web headers write them: `Sun, 06 Nov 1994 08:49:37 GMT`. -/
namespace Resources.MailDate

inductive Cause where
  | invalid
  | tooShort
  | tooLong
  | outOfRange
  | impossible
  deriving DecidableEq, Repr

def Cause.message : Cause → String
  | invalid => "input contains invalid characters"
  | tooShort => "premature end of input"
  | tooLong => "trailing input"
  | outOfRange => "input is out of range"
  | impossible => "no possible date and time matching input"

/-- Takes a part off the front of the text. -/
abbrev Part := StateT (List Char) (Except Cause)

def skipBlanks : Part Unit := modify (·.dropWhile Char.isWhitespace)

def blanks : Part Unit := do
  match ← get with
  | [] => throw .tooShort
  | c :: _ => if c.isWhitespace then skipBlanks else throw .invalid

/-- A number of at least so many digits, and at most so many. -/
def number (least most : Nat) : Part (Nat × Nat) := do
  let t ← get
  let ds := (t.take most).takeWhile Char.isDigit
  if t.length < least then throw .tooShort
  if ds.length < least then throw .invalid
  set (t.drop ds.length)
  pure (ds.foldl (fun n c => n * 10 + (c.toNat - 0x30)) 0, ds.length)

def mark (c : Char) : Part Unit := do
  match ← get with
  | [] => throw .tooShort
  | d :: r => if c = d then set r else throw .invalid

def months : List String :=
  ["jan", "feb", "mar", "apr", "may", "jun", "jul", "aug", "sep", "oct", "nov", "dec"]

/-- Monday comes first. -/
def weekdays : List String := ["mon", "tue", "wed", "thu", "fri", "sat", "sun"]

/-- The place of a three-letter name in a list, in any case. -/
def name (names : List String) : Part Nat := do
  let t ← get
  if t.length < 3 then throw .tooShort
  match names.findIdx? (· = .ofList ((t.take 3).map Char.toLower)) with
  | some i => set (t.drop 3); pure i
  | none => throw .invalid

/-- Hours west or east of Greenwich by name. A name that is not known means Greenwich. -/
def zones : List (String × Int) :=
  [("edt", -4), ("est", -5), ("cdt", -5), ("cst", -6), ("mdt", -6), ("mst", -7), ("pdt", -7),
   ("pst", -8)]

def within (n bound : Nat) : Part Unit := if n < bound then pure () else throw .outOfRange

/-- Seconds that the local time is ahead. -/
def offset : Part Int := do
  let t ← get
  let word := t.takeWhile Char.isAlpha
  if word ≠ [] then
    if word = ['j'] ∨ word = ['J'] then throw .invalid
    set (t.drop word.length)
    pure (3600 * ((zones.lookup (.ofList (word.map Char.toLower))).getD 0))
  else match t with
    | [] => throw .tooShort
    | c :: r =>
      if c ≠ '+' ∧ c ≠ '-' then throw .invalid
      set r
      let (h, _) ← number 2 2
      let (m, _) ← number 2 2
      within m 60
      let s : Int := h * 3600 + m * 60
      if 86400 ≤ s then throw .outOfRange
      pure (if c = '+' then s else -s)

/-- What is left after a comment, which may hold comments. -/
def afterComment : Nat → List Char → Option (List Char)
  | 0, r => some r
  | depth + 1, '\\' :: _ :: r => afterComment (depth + 1) r
  | depth + 1, '(' :: r => afterComment (depth + 2) r
  | depth + 1, ')' :: r => afterComment depth r
  | depth + 1, _ :: r => afterComment (depth + 1) r
  | _ + 1, [] => none

def comments : Nat → List Char → List Char
  | 0, t => t
  | fuel + 1, t =>
    match t.dropWhile Char.isWhitespace with
    | '(' :: r =>
      match afterComment 1 r with
      | some rest => comments fuel rest
      | none => t
    | _ => t

def isLeap (y : Nat) : Bool := y % 4 = 0 && (y % 100 ≠ 0 || y % 400 = 0)

def monthDays (y month : Nat) : Nat :=
  if month = 1 then if isLeap y then 29 else 28
  else if month ∈ [3, 5, 8, 10] then 30
  else 31

/-- Days from 1970-01-01 to the first day of a year. -/
def daysToYear (y : Nat) : Int :=
  let before : Int := y - 1
  before * 365 + before / 4 - before / 100 + before / 400 - 719162

/-- Months and days count from zero. -/
def days (y month day : Nat) : Int :=
  (List.range month).foldl (fun (sum : Int) m => sum + monthDays y m) (daysToYear y) + day

def fullYear (n digits : Nat) : Nat :=
  if digits = 2 then if n < 50 then n + 2000 else n + 1900
  else if digits = 3 then n + 1900
  else n

/-- The name of the day is optional. -/
def weekday : Part (Option Nat) := do
  skipBlanks
  match (name weekdays).run (← get) with
  | .ok (i, rest) =>
    set rest
    mark ','
    pure (some i)
  | .error _ => pure none

def seconds : Part Nat := do
  match (← get).dropWhile Char.isWhitespace with
  | ':' :: r =>
    set r
    return (← number 2 2).1
  | _ => pure 0

def date : Part Instant := do
  let wd ← weekday
  skipBlanks
  let (day, _) ← number 1 2
  if day = 0 ∨ 31 < day then throw .outOfRange
  blanks
  let month ← name months
  blanks
  let (n, digits) ← number 2 (← get).length.succ.succ
  let year := fullYear n digits
  blanks
  let (h, _) ← number 2 2
  within h 24
  skipBlanks
  mark ':'
  skipBlanks
  let (m, _) ← number 2 2
  within m 60
  let s ← seconds
  within s 61
  blanks
  let ahead ← offset
  modify fun t => comments t.length t
  if (← get) ≠ [] then throw .tooLong
  if 262142 < year ∨ monthDays year month < day then throw .outOfRange
  let total := days year month (day - 1)
  if wd.any fun i => (total + 3) % 7 ≠ i then throw .impossible
  pure ⟨total * 86400 + h * 3600 + m * 60 + s - ahead, 0⟩

def parse (s : String) : Except Cause Instant := (date.run s.toList).map (·.1)

end Resources.MailDate

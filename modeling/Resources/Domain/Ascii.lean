import Resources.Domain.Direction
import Resources.Domain.Folding
import Resources.Domain.Marks
import Resources.Domain.Punycode
import Resources.Text.Utf8

/-! Domains in ASCII, the form in which they are compared. -/
namespace Resources.Domain

abbrev Label := List Char

/-- Characters that no domain may hold. -/
def isForbidden (c : Char) : Bool :=
  c.toNat ≤ 0x20 || c.toNat = 0x7F ||
    c ∈ ['%', '#', '/', ':', '<', '>', '?', '@', '[', '\\', ']', '^', '|']

def isAscii (c : Char) : Bool := c.toNat < 0x80

/-- Before a label that is spelled in Punycode. -/
def mark : List Char := ['x', 'n', '-', '-']

def decodeLimit : Nat := 2000

def encodeLimit : Nat := 1000

/-- A label with the text that it stands for. -/
structure Spelling where
  shown : Label
  ascii : Label

/-- The text behind the mark: folded and composed already, and not plain. -/
def decoded? (t : Label) : Option Label := do
  guard (t.all isAscii ∧ t.getLast?.any (· ≠ '-') ∧ t.length ≤ decodeLimit)
  let shown ← Punycode.decode? t
  guard (shown.all isAllowed ∧ '.' ∉ shown ∧ Composed.compose shown = shown)
  pure shown

/-- A label after folding. -/
def spelling? (label : Label) : Option Spelling := do
  let shown ← if mark.isPrefixOf label then decoded? (label.drop mark.length) else some label
  guard (!shown.any isForbidden)
  if shown.all isAscii then pure ⟨shown, label⟩
  else
    guard (marksFit shown ∧ shown.length ≤ encodeLimit)
    pure ⟨shown, if mark.isPrefixOf label then label else mark ++ Punycode.encode shown⟩

/-- Folding can bring forth further dots. -/
def labels? (label : Label) : Option (List Spelling) := do
  let folded ← if label.all isAscii then some (label.map Char.toLower)
    else (label.mapM fold?).map fun cs => Composed.compose cs.flatten
  (folded.splitOn '.').mapM spelling?

/-- The domain in ASCII, if it is one. -/
def toAscii? (host : Bytes) : Option (List Char) := do
  let cs ← Utf8.decode? host
  let spellings := (← (cs.splitOn '.').mapM labels?).flatten
  guard (directionsFit (spellings.map (·.shown)))
  pure (List.intercalate ['.'] (spellings.map (·.ascii)))

end Resources.Domain

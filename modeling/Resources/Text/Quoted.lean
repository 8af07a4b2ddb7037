import Resources.Text.Unprintable

/-! Text in diagnostics: between double quotes, on one line, and printable throughout. -/
namespace Resources

namespace Quoted

def hex (n : Nat) : List Char := Nat.toDigits 16 n

def escape (c : Char) : List Char :=
  if c = '\x00' then ['\\', '0']
  else if c = '\t' then ['\\', 't']
  else if c = '\r' then ['\\', 'r']
  else if c = '\n' then ['\\', 'n']
  else if c = '\\' then ['\\', '\\']
  else if c = '"' then ['\\', '"']
  else if 0x20 ≤ c.toNat ∧ c.toNat < 0x7F then [c]
  else if isUnprintable c then ['\\', 'u', '\x7b'] ++ hex c.toNat ++ ['\x7d']
  else [c]

end Quoted

/-- The text in quotes, with all that would not show spelled out. -/
def quoted (s : String) : String := .ofList ('"' :: s.toList.flatMap Quoted.escape ++ ['"'])

end Resources

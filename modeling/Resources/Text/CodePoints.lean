/-! Tables of code points: hexadecimal numbers in lines, and sets as the places where membership
changes. -/
namespace Resources.CodePoints

def digit (c : Char) : Nat := if c.isDigit then c.toNat - 0x30 else c.toNat - 0x37

/-- Hexadecimal numbers separated by blanks. -/
def numbers (lines : List String) : List Nat :=
  lines.flatMap fun l => (l.toList.splitOn ' ').map (·.foldl (fun n c => n * 16 + digit c) 0)

/-- Is a number in the set whose membership changes at each of these places? -/
def within (changes : List Nat) (n : Nat) : Bool :=
  (changes.takeWhile (· ≤ n)).length % 2 = 1

end Resources.CodePoints

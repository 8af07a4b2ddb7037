/-! Points in time and spans of it, to the nanosecond. -/
namespace Resources

/-- Seconds since 1970-01-01T00:00:00Z, rounded down, and the nanoseconds beyond them. -/
structure Instant where
  seconds : Int
  nanos : Nat
  deriving DecidableEq, Repr, Inhabited

def Instant.epoch : Instant := ⟨0, 0⟩

/-- A span. The nanoseconds are below one second. -/
structure Duration where
  seconds : Nat
  nanos : Nat
  deriving DecidableEq, Repr

namespace Duration

def ofSeconds (s : Nat) : Duration := ⟨s, 0⟩

/-- Nanoseconds from one second on are carried. -/
def of (s n : Nat) : Duration := ⟨s + n / 1000000000, n % 1000000000⟩

/-- A fraction of so many places, without the zeros at its end. -/
def fraction (places n : Nat) : String :=
  let digits := (Nat.toDigits 10 (Nat.pow 10 places + n)).drop 1
  let kept := (digits.reverse.dropWhile (· = '0')).reverse
  if kept.isEmpty then "" else "." ++ .ofList kept

/-- In the largest unit of which there is a whole one. -/
def text (d : Duration) : String :=
  if 0 < d.seconds then s!"{d.seconds}{fraction 9 d.nanos}s"
  else if 1000000 ≤ d.nanos then s!"{d.nanos / 1000000}{fraction 6 (d.nanos % 1000000)}ms"
  else if 1000 ≤ d.nanos then s!"{d.nanos / 1000}{fraction 3 (d.nanos % 1000)}µs"
  else s!"{d.nanos}ns"

end Duration

end Resources

/-!
# Runs of code points

Character properties and simple case mappings are stored as ascending lists of runs. A run
steps through every code point of an interval or through every second one, which is how the
upper and lower case letters of most scripts alternate.
-/

namespace Accessors

/-- The code points `first`, `first + step`, and so on, up to `last`. -/
structure Run where
  first : Nat
  last : Nat
  step : Nat
  deriving DecidableEq, Repr

namespace Run

def holds (r : Run) (n : Nat) : Bool :=
  r.first.ble n && n.ble r.last && ((n - r.first) % r.step).beq 0

/-- Whether one of the runs holds `n`. The runs are in ascending order, so the search ends at
the first run that begins after `n`. -/
def search : List Run → Nat → Bool
  | [], _ => false
  | r :: rs, n => r.first.ble n && (r.holds n || search rs n)

end Run

/-- A run together with the image of its first code point; the others move by the same
distance. -/
structure Shift where
  run : Run
  target : Nat
  deriving DecidableEq, Repr

namespace Shift

/-- The image of `n`, or `n` itself where no run holds it. -/
def apply : List Shift → Nat → Nat
  | [], n => n
  | s :: ss, n =>
    if !s.run.first.ble n then n
    else if s.run.holds n then s.target + (n - s.run.first)
    else apply ss n

end Shift

end Accessors

import Accessors.Text.Basic

/-!
# Where new methods go

New methods go right before the last closing brace of a source, which is taken to end its class.
-/

namespace Accessors

namespace Insertion

/-- Cuts a text before its last `c`. -/
def cutAtLast? (c : Char) : Text → Option (Text × Text)
  | [] => none
  | d :: t =>
    match cutAtLast? c t with
    | some (before, after) => some (d :: before, after)
    | none => if d = c then some ([], d :: t) else none

/-- Cuts the source where new methods go: before the last closing brace that follows an opening
one. -/
def cut? (source : Text) : Option (Text × Text) :=
  match source.dropWhile (· != '\x7b') with
  | [] => none
  | brace :: body =>
    (cutAtLast? '\x7d' body).map fun (before, after) =>
      (source.takeWhile (· != '\x7b') ++ brace :: before, after)

/-- The number of bytes before the place where new methods go. -/
def offset? (source : Text) : Option Nat :=
  (cut? source).map fun (before, _) => Text.byteLength before

def insert? (source code : Text) : Option Text :=
  (cut? source).map fun (before, after) => before ++ code ++ after

end Insertion

end Accessors

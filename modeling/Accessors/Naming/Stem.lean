import Accessors.Naming.Style
import Accessors.Text.Case

/-!
# Names derived from a member's name

A member's name may carry a leading underscore and a one-letter type mark, as in `_aList`.
Accessors are named after the bare name in one of two styles.
-/

namespace Accessors

namespace Naming

/-- The name of a setter's parameter: the member's name without one leading underscore. -/
def parameter : Text → Text
  | '_' :: name => name
  | name => name

/-- The name without its marks: a type mark is one lower case letter before an upper case one,
and it may follow an underscore. -/
def bare : Text → Text
  | '_' :: b :: c :: rest => if isLower b && isUpper c then c :: rest else b :: c :: rest
  | '_' :: rest => rest
  | a :: b :: rest => if isLower a && isUpper b then b :: rest else a :: b :: rest
  | name => name

def isSmallAscii (c : Char) : Bool :=
  'a' ≤ c && c ≤ 'z'

def isCapitalAscii (c : Char) : Bool :=
  'A' ≤ c && c ≤ 'Z'

/-- Turns an underscore and the small ASCII letter after it into the capital. -/
def raiseMarked : Text → Text
  | '_' :: c :: rest =>
    if isSmallAscii c then c.toUpper :: raiseMarked rest else '_' :: raiseMarked (c :: rest)
  | c :: rest => c :: raiseMarked rest
  | [] => []

def raiseFirst : Text → Text
  | c :: rest => upper c ++ rest
  | [] => []

/-- The bare name in camel case: marked letters raised, then the first, then no underscores. -/
def camel (name : Text) : Text :=
  (raiseFirst (raiseMarked (bare name))).filter (· != '_')

def stem : Style → Text → Text
  | .camel, name => camel name
  | .snake, name => bare name

end Naming

end Accessors

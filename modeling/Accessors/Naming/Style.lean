import Accessors.Text.Basic

/-!
# Naming styles

Method names join their words by capitals, as in `getFooBar`, or by underscores, as in
`get_foo_bar`.
-/

namespace Accessors

/-- How the words of a method name are joined. -/
inductive Style
  | camel
  | snake
  deriving DecidableEq, Repr

namespace Style

def all : List Style :=
  [camel, snake]

def key : Style → Text
  | camel => "camelCase"
  | snake => "snakeCase"

def ofKey? (k : Text) : Option Style :=
  all.find? fun s => s.key == k

/-- What stands between the verb and the rest of a method name. -/
def separator : Style → Text
  | camel => []
  | snake => ['_']

end Style

end Accessors

import Accessors.Text.Basic
import Accessors.Text.Fold
import Accessors.Text.Word

/-!
# Declared methods

A source declares a method where the word `function` begins, white space and perhaps an
ampersand follow, then the name in any letter case, and an opening parenthesis. Names of every
length are searched for: a limit on the size of a search, past which a name would count as not
declared and a warning be given, is not part of the library.
-/

namespace Accessors

namespace Method

/-- The rest of `t` after a spelling of `name` in any letter case. -/
def afterName? : Text → Text → Option Text
  | [], t => some t
  | _ :: _, [] => none
  | n :: name, c :: t => if sameLetter n c then afterName? name t else none

/-- Whether `t` begins with the name, white space if any, and an opening parenthesis. -/
def namesParameters (name t : Text) : Bool :=
  match afterName? name t with
  | some rest => (rest.dropWhile isSpace).head? == some '('
  | none => false

/-- The name may stand behind the mark of a return by reference. -/
def namesMethod (name : Text) : Text → Bool
  | '&' :: t => namesParameters name ('&' :: t) || namesParameters name t
  | t => namesParameters name t

/-- Whether white space and then the method follow. A name that itself begins with white space
may take part of it. -/
def spaceThenMethod (name : Text) : Text → Bool
  | [] => false
  | c :: t => isSpace c && (namesMethod name t || spaceThenMethod name t)

def functionKeyword : Text := "function"

def beginsMethod (name t : Text) : Bool :=
  let n := functionKeyword.length
  (t.take n).map Char.toLower == functionKeyword && spaceThenMethod name (t.drop n)

/-- Searches for a declaration that begins a word; `inWord` tells whether the character before
`t` is a word character. -/
def declaresFrom (name : Text) (inWord : Bool) : Text → Bool
  | [] => false
  | c :: t =>
    (!inWord && beginsMethod name (c :: t)) || declaresFrom name (isWord c) t

/-- Whether the source declares a method of this name, in any letter case. -/
def declares (source name : Text) : Bool :=
  declaresFrom name false source

end Method

end Accessors

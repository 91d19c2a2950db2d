import Accessors.Source.Visibility
import Accessors.Text.Word

/-!
# Declaration lines

A member is declared on one line: blanks, a visibility, up to two further words, a dollar sign
with what follows it up to a blank or one of `=`, `;`, `|`, and the rest of the line.
-/

namespace Accessors

/-- What a declaration line says: its visibility, and its text from the visibility on. -/
structure DeclarationLine where
  visibility : Visibility
  text : Text
  deriving DecidableEq, Repr

namespace DeclarationLine

/-- A character of a word between the visibility and the dollar sign. -/
def isModifier (c : Char) : Bool :=
  !isSpace c && c != '$' && c != '('

/-- A character that may stand between the dollar sign and the end of the variable. -/
def isVariable (c : Char) : Bool :=
  !isSpace c && c != '=' && c != ';' && c != '|'

def isEnd (c : Char) : Bool :=
  isBlank c || c == '=' || c == ';' || c == '|'

/-- Passes over up to `n` words, each with blanks before it. -/
def skipWords : Nat → Text → Text
  | 0, t => t
  | n + 1, t =>
    let word := t.dropWhile isBlank
    let after := word.dropWhile isModifier
    if word.length < t.length ∧ after.length < word.length then skipWords n after else t

/-- What follows the character that ends the variable, if `t` is a variable and its end. -/
def afterVariable? (t : Text) : Option Text :=
  match t.dropWhile isBlank with
  | '$' :: name =>
    match name.dropWhile isVariable with
    | c :: rest => if isEnd c then some rest else none
    | [] => none
  | _ => none

/-- Drops one carriage return at the end, then blanks. -/
def dropLineEnd (t : Text) : Text :=
  match t.reverse with
  | '\r' :: r => (r.dropWhile isBlank).reverse
  | r => (r.dropWhile isBlank).reverse

def read? (line : Text) : Option DeclarationLine :=
  let text := line.dropWhile isBlank
  match Visibility.read? text with
  | none => none
  | some (visibility, afterKeyword) =>
    match afterVariable? (skipWords 2 afterKeyword) with
    | none => none
    | some rest =>
      some ⟨visibility, text.take (text.length - rest.length) ++ dropLineEnd rest⟩

def isNameStart (c : Char) : Bool :=
  c.isAlpha || c == '_'

/-- The first dollar sign that a name follows gives the name of the member. -/
def name? : Text → Option Text
  | '$' :: c :: rest =>
    if isNameStart c then some (c :: rest.takeWhile isWord) else name? (c :: rest)
  | _ :: rest => name? rest
  | [] => none

end DeclarationLine

end Accessors

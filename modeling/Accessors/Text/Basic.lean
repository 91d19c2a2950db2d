import Accessors.Text.Space

/-!
# Texts

A text is the list of its characters. This module holds the operations that every part of the
library shares: cutting a text into lines, trimming it, searching it, and measuring it in the
bytes of its UTF-8 form.
-/

namespace Accessors

abbrev Text := List Char

instance : Coe String Text where
  coe := String.toList

namespace Text

/-- The pieces between the occurrences of `c`: always one more than there are occurrences. -/
def pieces (c : Char) : Text → List Text
  | [] => [[]]
  | d :: r =>
    if d = c then [] :: pieces c r
    else
      match pieces c r with
      | [] => [[d]]
      | p :: ps => (d :: p) :: ps

/-- The lines of a text. A line feed ends a line and belongs to none; a carriage return is an
ordinary character. -/
def lines (t : Text) : List Text :=
  pieces '\n' t

def joinWith (sep : Text) (ts : List Text) : Text :=
  sep.intercalate ts

def dropTrailing (p : Char → Bool) (t : Text) : Text :=
  (t.reverse.dropWhile p).reverse

def trimBy (p : Char → Bool) (t : Text) : Text :=
  dropTrailing p (t.dropWhile p)

def trim (t : Text) : Text :=
  trimBy isSpace t

def endsIn (s t : Text) : Bool :=
  s.isSuffixOf t

def occursIn (s : Text) : Text → Bool
  | [] => s.isEmpty
  | c :: r => s.isPrefixOf (c :: r) || occursIn s r

/-- The number of bytes of the UTF-8 form. -/
def byteLength : Text → Nat
  | [] => 0
  | c :: t => c.utf8Size + byteLength t

/-- Cuts a text after its first `n` bytes; `none` if that is past the end or inside a
character. -/
def cutAtByte? : Nat → Text → Option (Text × Text)
  | n, [] => if n = 0 then some ([], []) else none
  | n, c :: r =>
    if n = 0 then some ([], c :: r)
    else if n < c.utf8Size then none
    else (cutAtByte? (n - c.utf8Size) r).map fun (a, b) => (c :: a, b)

def ofBytes? (bytes : ByteArray) : Option Text :=
  (String.fromUTF8? bytes).map String.toList

def toBytes (t : Text) : ByteArray :=
  (String.ofList t).toUTF8

/-- The number in base sixteen with at least `width` digits. -/
def hexDigits (width n : Nat) : Text :=
  let digits := Nat.toDigits 16 n
  List.replicate (width - digits.length) '0' ++ digits

def ofNat (n : Nat) : Text :=
  Nat.toDigits 10 n

def padRight (width : Nat) (t : Text) : Text :=
  t ++ List.replicate (width - t.length) ' '

def padLeft (width : Nat) (t : Text) : Text :=
  List.replicate (width - t.length) ' ' ++ t

/-- A text on one line: each line feed becomes a space. -/
def oneLine (t : Text) : Text :=
  t.map fun c => if c = '\n' then ' ' else c

end Text

end Accessors

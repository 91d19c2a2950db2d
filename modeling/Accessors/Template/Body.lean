import Accessors.Text.Basic

/-!
# Template bodies

A body is plain text with holes. A hole is a text without braces between two opening and two
closing braces; its key is that text less the white space around it. Filling a body replaces
each hole by the value of its key, and looks at no value again.
-/

namespace Accessors

/-- What a body is made of: characters that stand for themselves, and holes. -/
inductive Piece
  | char (c : Char)
  | hole (inner : Text)
  deriving DecidableEq, Repr

namespace Piece

def source : Piece → Text
  | char c => [c]
  | hole inner => '\x7b' :: '\x7b' :: inner ++ ['\x7d', '\x7d']

def key? : Piece → Option Text
  | char _ => none
  | hole inner => some (Text.trim inner)

end Piece

namespace Body

def isBrace (c : Char) : Bool :=
  c == '\x7b' || c == '\x7d'

/-- The inner text of a hole at the start of `t`. -/
def hole? : Text → Option Text
  | '\x7b' :: '\x7b' :: t =>
    match t.dropWhile (!isBrace ·) with
    | '\x7d' :: '\x7d' :: _ => some (t.takeWhile (!isBrace ·))
    | _ => none
  | _ => none

/-- The pieces of `t` after its first `n` characters, which belong to an earlier hole. -/
def piecesAfter : Nat → Text → List Piece
  | _, [] => []
  | n + 1, _ :: t => piecesAfter n t
  | 0, c :: t =>
    match hole? (c :: t) with
    | some inner => .hole inner :: piecesAfter (inner.length + 3) t
    | none => .char c :: piecesAfter 0 t

def pieces (body : Text) : List Piece :=
  piecesAfter 0 body

/-- The keys of the holes, in order, repeats kept. -/
def keys (body : Text) : List Text :=
  (pieces body).filterMap Piece.key?

/-- Replaces each hole by the value of its key, or returns the first key without a value. -/
def fillPieces (values : Text → Option Text) : List Piece → Except Text Text
  | [] => .ok []
  | .char c :: ps => (fillPieces values ps).map (c :: ·)
  | .hole inner :: ps =>
    match values (Text.trim inner) with
    | some v => (fillPieces values ps).map (v ++ ·)
    | none => .error (Text.trim inner)

def fill (values : Text → Option Text) (body : Text) : Except Text Text :=
  fillPieces values (pieces body)

/-- Four spaces become a tab, from left to right. -/
def tabbed : Text → Text
  | ' ' :: ' ' :: ' ' :: ' ' :: t => '\t' :: tabbed t
  | c :: t => c :: tabbed t
  | [] => []

/-- Drops one space after each opening parenthesis, where an empty type hint leaves it. -/
def closeGaps : Text → Text
  | '(' :: ' ' :: t => '(' :: closeGaps t
  | c :: t => c :: closeGaps t
  | [] => []

end Body

end Accessors

import Accessors.NameMap
import Accessors.Text.Word

/-!
# Doc comments

A doc comment is read line by line. Every line loses the marks that draw the comment's frame
and its final periods; what begins with an at sign is a tag, anything else that is left
belongs to the description.
-/

namespace Accessors

inductive DocLine
  | blank
  | prose (text : Text)
  | tag (name value : Text)
  /-- Begins like a tag, but is no name, space and value. -/
  | unreadable (text : Text)
  deriving DecidableEq, Repr

namespace DocLine

/-- The characters that draw the frame of a comment. -/
def isFrame (c : Char) : Bool :=
  c == ' ' || c == '\t' || c == '\r' || c == '*' || c == '/'

/-- A line without its frame and its final periods. -/
def strip (line : Text) : Text :=
  Text.dropTrailing (· == '.') (Text.trimBy isFrame line)

/-- Reads what follows the at sign: a name of word characters, a space, and a value, from which
white space is trimmed. -/
def tag? (t : Text) : Option (Text × Text) :=
  match t.takeWhile isWord, t.dropWhile isWord with
  | c :: name, ' ' :: value => some (c :: name, Text.trim value)
  | _, _ => none

def ofStripped (t : Text) : DocLine :=
  match t with
  | [] => blank
  | '@' :: rest =>
    match tag? rest with
    | some (name, value) => tag name value
    | none => unreadable t
  | _ => prose t

def read (line : Text) : DocLine :=
  ofStripped (strip line)

def prose? : DocLine → Option Text
  | prose t => some t
  | _ => none

def unreadable? : DocLine → Option Text
  | unreadable t => some t
  | _ => none

/-- Records a tag; the last one of a name counts. -/
def record (tags : NameMap Text) : DocLine → NameMap Text
  | tag name value => tags.insert name value
  | _ => tags

end DocLine

structure DocComment where
  /-- The lines of prose. -/
  description : Text
  tags : NameMap Text
  /-- The lines that begin like a tag and are none. -/
  unreadable : List Text
  deriving DecidableEq

namespace DocComment

def ofLines (ls : List DocLine) : DocComment where
  description := Text.joinWith ['\n'] (ls.filterMap DocLine.prose?)
  tags := ls.foldl DocLine.record ∅
  unreadable := ls.filterMap DocLine.unreadable?

def parse (t : Text) : DocComment :=
  ofLines ((Text.lines t).map DocLine.read)

def hasDescription (d : DocComment) : Bool :=
  !d.description.isEmpty

def isEmpty (d : DocComment) : Bool :=
  d.description.isEmpty && d.tags.isEmpty

end DocComment

end Accessors

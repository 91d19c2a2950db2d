import Accessors.Toml.DateTime
import Accessors.Toml.Value

/-!
# TOML documents

A document is a sequence of headers and pairs. The reader takes the part of TOML 1.0 that
settings can hold: it refuses arrays of tables, which no setting admits.
-/

namespace Accessors

namespace Toml

/-- How deep arrays and inline tables may nest, and how many parts a key may have. -/
def maxDepth : Nat := 79

/-- The parts of a dotted key, of which there are at most `most`, with blanks around each. -/
def dottedKey? : Nat → Text → Option (List Text × Text)
  | 0, _ => none
  | most + 1, t =>
    match keyPart? (t.dropWhile isBlank) with
    | none => none
    | some (k, rest) =>
      match rest.dropWhile isBlank with
      | '.' :: rest => (dottedKey? most rest).map fun (ks, r) => (k :: ks, r)
      | rest => some ([k], rest)

def key? (t : Text) : Option (List Text × Text) :=
  dottedKey? maxDepth t

/-- Passes over blanks, line ends and comments. A comment goes to the end of its line. -/
def skipTrivia (inComment : Bool) : Text → Text
  | [] => []
  | '\n' :: t => skipTrivia false t
  | '\r' :: '\n' :: t => skipTrivia false t
  | c :: t =>
    if inComment then if isTextual c then skipTrivia true t else c :: t
    else if isBlank c then skipTrivia false t
    else if c = '#' then skipTrivia true t
    else c :: t

/-- The items of an array and its closing bracket. A comma may follow the last item. -/
def items? (value? : Text → Option (Value × Text)) : Nat → Text → Option (List Value × Text)
  | 0, _ => none
  | fuel + 1, t =>
    match skipTrivia false t with
    | ']' :: rest => some ([], rest)
    | t =>
      match value? t with
      | none => none
      | some (v, rest) =>
        match skipTrivia false rest with
        | ']' :: rest => some ([v], rest)
        | ',' :: rest => (items? value? fuel rest).map fun (vs, r) => (v :: vs, r)
        | _ => none

def pair? (value? : Text → Option (Value × Text)) (t : Text) :
    Option ((List Text × Value) × Text) :=
  match key? t with
  | some (k, '=' :: rest) => (value? (rest.dropWhile isBlank)).map fun (v, r) => ((k, v), r)
  | _ => none

/-- The pairs of an inline table that holds `es` so far, and its closing brace. -/
def pairs? (value? : Text → Option (Value × Text)) :
    Nat → Entries → Text → Option (Entries × Text)
  | 0, _, _ => none
  | fuel + 1, es, t =>
    match pair? value? t with
    | none => none
    | some ((k, v), rest) =>
      match Entries.put v k es, rest.dropWhile isBlank with
      | some es, ',' :: rest => pairs? value? fuel es rest
      | some es, '\x7d' :: rest => some (es, rest)
      | _, _ => none

/-- A value that holds no others. -/
def simpleValue? (t : Text) : Option (Value × Text) :=
  match t with
  | '"' :: _ | '\'' :: _ => (quoted? t).map fun (s, r) => (.text s, r)
  | 't' :: 'r' :: 'u' :: 'e' :: rest => some (.flag true, rest)
  | 'f' :: 'a' :: 'l' :: 's' :: 'e' :: rest => some (.flag false, rest)
  | _ =>
    match dateTime? t with
    | some rest => some (.dateTime, rest)
    | none => (number? t).map fun rest => (.number, rest)

/-- A value in which arrays and inline tables nest to at most the given depth. -/
def value? : Nat → Text → Option (Value × Text)
  | 0, t => simpleValue? t
  | depth + 1, t =>
    match t with
    | '[' :: rest =>
      (items? (value? depth) (rest.length + 1) rest).map fun (vs, r) => (.array vs, r)
    | '\x7b' :: rest =>
      match rest.dropWhile isBlank with
      | '\x7d' :: rest => some (.table .inline [], rest)
      | rest =>
        (pairs? (value? depth) (rest.length + 1) [] rest).map fun (es, r) =>
          (.table .inline es, r)
    | t => simpleValue? t

/-- The input after the end of a line, before which blanks and a comment may stand. -/
def lineEnd? (t : Text) : Option Text :=
  let rest :=
    match t.dropWhile isBlank with
    | '#' :: comment => comment.dropWhile isTextual
    | rest => rest
  match rest with
  | [] => some []
  | rest => newline? rest

inductive Statement
  | header (path : List Text)
  | pair (key : List Text) (value : Value)

def statement? (t : Text) : Option (Statement × Text) :=
  match t with
  | '[' :: rest =>
    match key? rest with
    | some (path, ']' :: rest) => (lineEnd? rest).map fun r => (.header path, r)
    | _ => none
  | _ =>
    match pair? (value? maxDepth) t with
    | some ((k, v), rest) => (lineEnd? rest).map fun r => (.pair k v, r)
    | none => none

def isIdle (line : Text) : Bool :=
  match line with
  | [] | '\n' :: _ | '\r' :: _ | '#' :: _ => true
  | _ => false

/-- The statements of a text; `fuel` bounds its lines. -/
def statements? : Nat → Text → Option (List Statement)
  | 0, _ => none
  | fuel + 1, t =>
    match t.dropWhile isBlank with
    | [] => some []
    | t =>
      if isIdle t then (lineEnd? t).bind (statements? fuel)
      else
        match statement? t with
        | some (s, rest) => (statements? fuel rest).map (s :: ·)
        | none => none

/-- The entries so far, and the path of the table that pairs go to. -/
structure Progress where
  entries : Entries := []
  path : List Text := []

def Progress.step (p : Progress) : Statement → Option Progress
  | .header path => (Entries.openTable path p.entries).map fun es => ⟨es, path⟩
  | .pair key value =>
    (Entries.within (Entries.put value key) p.path p.entries).map fun es => { p with entries := es }

/-- A mark of the byte order may begin a document. -/
def dropMark : Text → Text
  | c :: t => if c.toNat = 0xfeff then t else c :: t
  | [] => []

def document? (t : Text) : Option Entries :=
  let t := dropMark t
  (statements? (t.length + 1) t).bind fun ss =>
    (ss.foldlM Progress.step ({} : Progress)).map Progress.entries

end Toml

end Accessors

import Accessors.Generation.Member

/-!
# Listings

Members are listed as a table with one line each, or as JSON.
-/

namespace Accessors

namespace Command

def memberRow (index : Nat) (m : Member) : Text :=
  Text.padLeft 3 (Text.ofNat index) ++ "  " ++ Text.padRight 10 m.visibility.keyword ++ " " ++
    Text.padRight 20 m.name ++ " " ++ Text.padRight 12 m.declaredType ++ " " ++
    Text.oneLine m.description ++ "\n"

def skippedRow (s : Skipped) : Text :=
  "  -  line " ++ Text.ofNat s.line ++ ": skipped `" ++ s.text ++ "`\n"

/-- The members, or a line that says there are none, and the skipped declarations. -/
def memberTable (origin : Text) (members : List Member) (skipped : List Skipped) : Text :=
  (if members.isEmpty then "No members found in " ++ origin ++ "\n" else []) ++
    members.zipIdx.flatMap (fun (m, i) => memberRow i m) ++ skipped.flatMap skippedRow

def templateRow (active : Text) (t : Template) : Text :=
  (if t.name = active then "* ".toList else "  ".toList) ++ Text.padRight 20 t.name ++ " " ++
    t.style.key ++ "\n"

def itemRow (index : Nat) (name description : Text) : Text :=
  "[" ++ Text.ofNat index ++ "] " ++ name ++ " - " ++ Text.oneLine description ++ "\n"

/-- A JSON value as it is written at a level of indentation. -/
abbrev Json := Nat → Text

namespace Json

def escape (c : Char) : Text :=
  match c with
  | '"' => "\\\""
  | '\\' => "\\\\"
  | '\x08' => "\\b"
  | '\x0c' => "\\f"
  | '\n' => "\\n"
  | '\r' => "\\r"
  | '\t' => "\\t"
  | c =>
    if c.toNat < 0x20 then "\\u" ++ Text.hexDigits 4 c.toNat else [c]

def quote (t : Text) : Text :=
  '"' :: t.flatMap escape ++ ['"']

def string (t : Text) : Json :=
  fun _ => quote t

def number (n : Nat) : Json :=
  fun _ => Text.ofNat n

/-- The parts between two brackets, each on a line of its own; brackets without parts stay
together. -/
def block (opening closing : Char) (parts : List Json) : Json := fun level =>
  let newline (n : Nat) : Text := '\n' :: List.replicate (2 * n) ' '
  if parts.isEmpty then [opening, closing]
  else
    [opening] ++ newline (level + 1) ++
      Text.joinWith (',' :: newline (level + 1)) (parts.map fun p => p (level + 1)) ++
      newline level ++ [closing]

def array (items : List Json) : Json :=
  block '[' ']' items

def object (fields : List (Text × Json)) : Json :=
  block '\x7b' '\x7d' (fields.map fun (k, v) => fun level => quote k ++ ": " ++ v level)

end Json

def memberJson (m : Member) : Json :=
  .object
    [("description", .string m.description), ("line", .number m.line), ("name", .string m.name),
     ("type", .string m.declaredType), ("visibility", .string m.visibility.keyword)]

def skippedJson (s : Skipped) : Json :=
  .object [("line", .number s.line), ("text", .string s.text)]

def listingJson (members : List Member) (skipped : List Skipped) : Text :=
  Json.object
    [("members", .array (members.map memberJson)),
     ("skipped", .array (skipped.map skippedJson))] 0 ++ ['\n']

end Command

end Accessors

import Accessors.Text.Basic

/-!
# TOML values

Settings are texts, flags, arrays and tables. Of a number or a date only its kind is kept,
since no setting is one. A table remembers how it came about, which decides what later keys
may extend it.
-/

namespace Accessors

namespace Toml

inductive Origin
  /-- Written out as a value; nothing extends it. -/
  | inline
  /-- Named by a header. -/
  | header
  /-- Implied by a longer header; a header of its own may follow. -/
  | implied
  /-- Made by a dotted key. -/
  | dotted
  deriving DecidableEq, Repr

inductive Value
  | text (t : Text)
  | flag (b : Bool)
  | number
  | dateTime
  | array (items : List Value)
  | table (origin : Origin) (entries : List (Text × Value))

abbrev Entries := List (Text × Value)

namespace Entries

def replace (k : Text) (v : Value) (es : Entries) : Entries :=
  es.map fun e => if e.1 = k then (k, v) else e

/-- Puts a value under a dotted key. The key must be new. Its tables are made on the way; one
that is there already must have been made by a dotted key, or be implied and not the last. -/
def put (v : Value) : List Text → Entries → Option Entries
  | [], _ => none
  | [k], es => if (es.lookup k).isSome then none else some (es ++ [(k, v)])
  | k :: ks, es =>
    match es.lookup k with
    | none => (put v ks []).map fun sub => es ++ [(k, .table .dotted sub)]
    | some (.table origin sub) =>
      if origin = .dotted ∨ origin = .implied ∧ ks.length ≠ 1 then
        (put v ks sub).map fun sub => replace k (.table origin sub) es
      else none
    | some _ => none

/-- Opens the table of a header. A table may be opened once, and not if a key made it. -/
def openTable : List Text → Entries → Option Entries
  | [], _ => none
  | [k], es =>
    match es.lookup k with
    | none => some (es ++ [(k, .table .header [])])
    | some (.table .implied sub) => some (replace k (.table .header sub) es)
    | some _ => none
  | k :: ks, es =>
    match es.lookup k with
    | none => (openTable ks []).map fun sub => es ++ [(k, .table .implied sub)]
    | some (.table .inline _) => none
    | some (.table origin sub) =>
      (openTable ks sub).map fun sub => replace k (.table origin sub) es
    | some _ => none

/-- Changes the entries of the table at a path. -/
def within (change : Entries → Option Entries) : List Text → Entries → Option Entries
  | [], es => change es
  | k :: ks, es =>
    match es.lookup k with
    | some (.table origin sub) =>
      (within change ks sub).map fun sub => replace k (.table origin sub) es
    | _ => none

end Entries

end Toml

end Accessors

import Accessors.Notice
import Accessors.Source.DeclarationLine
import Accessors.Source.DocBlock
import Accessors.Source.DocComment

/-!
# Survey of a source

A survey lists the members that a source declares, in the order of their lines, each with the
doc comment above it. Declaration lines without a usable name are listed apart.
-/

namespace Accessors

def isPhp (source : Text) : Bool :=
  Text.occursIn "<?php" source

structure Declaration where
  name : Text
  visibility : Visibility
  doc : Option DocComment
  /-- The number of its line, from one. -/
  line : Nat
  text : Text
  deriving DecidableEq

/-- A declaration line that declares no usable name. -/
structure Skipped where
  line : Nat
  text : Text
  deriving DecidableEq, Repr

inductive Finding
  | member (d : Declaration)
  | nameless (s : Skipped)
  deriving DecidableEq

namespace Finding

def declaration? : Finding → Option Declaration
  | member d => some d
  | nameless _ => none

def skipped? : Finding → Option Skipped
  | member _ => none
  | nameless s => some s

def notices : Finding → List Notice
  | member d => (d.doc.elim [] DocComment.unreadable).map Notice.unreadableTag
  | nameless s => [.namelessDeclaration s.line s.text]

/-- Reads a line whose preceding lines are `above`, nearest first. -/
def read? (above : List Text) (line : Text) : Option Finding :=
  (DeclarationLine.read? line).map fun d =>
    match DeclarationLine.name? d.text with
    | some name =>
      .member
        { name
          visibility := d.visibility
          doc := (DocBlock.above? above).map DocComment.parse
          line := above.length + 1
          text := d.text }
    | none => .nameless ⟨above.length + 1, d.text⟩

/-- The findings of lines that follow `above`. -/
def readAll (above : List Text) : List Text → List Finding
  | [] => []
  | line :: rest => (read? above line).toList ++ readAll (line :: above) rest

def ofSource (source : Text) : List Finding :=
  readAll [] (Text.lines source)

end Finding

structure Survey where
  declarations : List Declaration
  skipped : List Skipped
  deriving DecidableEq

namespace Survey

def ofFindings (fs : List Finding) : Survey where
  declarations := fs.filterMap Finding.declaration?
  skipped := fs.filterMap Finding.skipped?

def ofSource (source : Text) : Survey :=
  ofFindings (Finding.ofSource source)

def notices (source : Text) : List Notice :=
  (Finding.ofSource source).flatMap Finding.notices

end Survey

end Accessors

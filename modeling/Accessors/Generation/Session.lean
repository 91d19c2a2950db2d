import Accessors.Generation.Generator
import Accessors.Source.Insertion

/-!
# Editing sessions

A session holds a source that grows by the code generated for it, a catalogue, and options.
-/

namespace Accessors

structure Session where
  source : Text
  catalogue : Catalogue
  options : Options
  deriving DecidableEq

namespace Session

def register (s : Session) (t : Template) : Session :=
  { s with catalogue := s.catalogue.add t }

def generator (s : Session) : Except TemplateError Generator :=
  Generator.resolve s.catalogue s.options

def generate (s : Session) (kind : Kind) (selection : Selection) :
    Except TemplateError Generated := do
  (← s.generator).generate s.source kind selection

/-- Puts code where new methods go; a source without such a place stays as it is. -/
def insert (s : Session) (code : Text) : Session :=
  { s with source := (Insertion.insert? s.source code).getD s.source }

end Session

end Accessors

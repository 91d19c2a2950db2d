import Accessors.Generation.Batch
import Accessors.Template.Catalogue

/-!
# Generation

A generator is a template with the options of a request. It surveys a source, selects members
and writes their accessors.
-/

namespace Accessors

inductive Selection
  | all
  | named (name : Text)
  deriving DecidableEq, Repr

namespace Selection

def selects : Selection → Member → Bool
  | all, _ => true
  | named name, m => m.name == name

/-- A name that no member has is worth a warning. -/
def notices (s : Selection) (selected : List Member) : List Notice :=
  match s, selected with
  | named name, [] => [.noSuchMember name]
  | _, _ => []

end Selection

structure Generated where
  code : Text
  emitted : List Text
  existing : List Text
  skipped : List Skipped
  /-- The number of members selected. -/
  selected : Nat
  deriving DecidableEq, Repr

def Generated.isEmpty (g : Generated) : Bool :=
  g.code.isEmpty

structure Generator where
  template : Template
  options : Options
  deriving DecidableEq, Repr

namespace Generator

def resolve (c : Catalogue) (options : Options) : Except TemplateError Generator :=
  (c.find options.template).map fun template => ⟨template, options⟩

def members (g : Generator) (source : Text) : List Member :=
  (Survey.ofSource source).declarations.map (Member.ofDeclaration g.template g.options)

def memberNotices (g : Generator) (source : Text) : List Notice :=
  Survey.notices source ++ (g.members source).flatMap Member.notices

/-- Name and description of each member, for a choice. -/
def items (g : Generator) (source : Text) : List (Text × Text) :=
  (g.members source).map fun m => (m.name, m.description)

def selected (g : Generator) (source : Text) (selection : Selection) : List Member :=
  (g.members source).filter selection.selects

def batch (g : Generator) (source : Text) (kind : Kind) (ms : List Member) :
    Batch × Option TemplateError :=
  Batch.run g.template source {} (Request.ofMembers kind g.options.setterFirst ms)

def generate (g : Generator) (source : Text) (kind : Kind) (selection : Selection) :
    Except TemplateError Generated :=
  let ms := g.selected source selection
  match g.batch source kind ms with
  | (_, some e) => .error e
  | (b, none) =>
    .ok
      { code := b.code
        emitted := b.emitted
        existing := b.existing
        skipped := (Survey.ofSource source).skipped
        selected := ms.length }

/-- The notices of a generation request, in the order in which they arise. -/
def notices (g : Generator) (source : Text) (kind : Kind) (selection : Selection) : List Notice :=
  let ms := g.selected source selection
  g.memberNotices source ++ (g.batch source kind ms).1.notices ++ selection.notices ms

def accessor (g : Generator) (source : Text) (a : Accessor) (m : Member) :
    Except TemplateError Text :=
  Request.code g.template source ⟨a, m⟩

def pairs (g : Generator) (source : Text) (ms : List Member) : Except TemplateError Text :=
  match g.batch source .both ms with
  | (_, some e) => .error e
  | (b, none) => .ok b.code

end Generator

end Accessors

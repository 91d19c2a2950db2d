import Accessors.Naming.Phrase
import Accessors.Source.Survey
import Accessors.Template.Basic

/-!
# Members

A member is a declaration seen through a template and the options of a request: it knows its
type, its description, and the names of its accessors.
-/

namespace Accessors

structure Options where
  /-- The name of the active template. -/
  template : Text := "PSR2"
  /-- Treat every member as public. -/
  ignoreVisibility : Bool := false
  /-- Types that are never written as type hints. -/
  hintIgnore : List Text := []
  setterFirst : Bool := false
  deriving DecidableEq, Repr

inductive TypeHint
  /-- There is no type, or one that is never a hint. -/
  | omitted
  /-- The declared type is more than one type. -/
  | ambiguous
  | given (type : Text)
  deriving DecidableEq, Repr

namespace TypeHint

def ofDeclared (ignored : List Text) (type : Text) : TypeHint :=
  if type.isEmpty || ignored.contains type then omitted
  else if type.contains ' ' || type.contains '|' then ambiguous
  else given type

def text : TypeHint → Text
  | given type => type
  | _ => []

end TypeHint

structure Member where
  name : Text
  visibility : Visibility
  declaredType : Text
  description : Text
  hint : TypeHint
  line : Nat
  style : Style
  marksPrivate : Bool
  deriving DecidableEq, Repr

namespace Member

/-- The type of a member whose doc comment names none. -/
def defaultType : Text := "mixed"

def typeOf (doc : Option DocComment) : Text :=
  ((doc.bind fun d => d.tags.find? "var").getD defaultType)

def descriptionOf (name : Text) (doc : Option DocComment) : Text :=
  match doc with
  | some d => if d.hasDescription then d.description else "value of " ++ name
  | none => "value of " ++ name

def ofDeclaration (template : Template) (options : Options) (d : Declaration) : Member where
  name := d.name
  visibility := if options.ignoreVisibility then .isPublic else d.visibility
  declaredType := typeOf d.doc
  description := descriptionOf d.name d.doc
  hint := .ofDeclared options.hintIgnore (typeOf d.doc)
  line := d.line
  style := template.style
  marksPrivate := template.marksPrivate

def notices (m : Member) : List Notice :=
  match m.hint with
  | .ambiguous => [.severalTypes m.declaredType]
  | _ => []

/-- An underscore for a private member. -/
def visibilityMark (m : Member) : Text :=
  if m.visibility = .isPrivate then ['_'] else []

def getterVerb (m : Member) : Text :=
  if Text.occursIn "bool" m.declaredType then "is" else "get"

def setterVerb (_ : Member) : Text := "set"

/-- The part of the accessors' names that follows the verb. -/
def stem (m : Member) : Text :=
  Naming.stem m.style m.name

def getterName (m : Member) : Text :=
  m.getterVerb ++ m.style.separator ++ m.stem

def setterName (m : Member) : Text :=
  (if m.marksPrivate then m.visibilityMark else []) ++ m.setterVerb ++ m.style.separator ++ m.stem

def value (m : Member) : Placeholder → Text
  | .name => m.name
  | .param => Naming.parameter m.name
  | .visibility => m.visibility.keyword
  | .visibilityMark => m.visibilityMark
  | .type => m.declaredType
  | .stem => m.stem
  | .description => m.description
  | .typeHint => m.hint.text
  | .phrase => Naming.phrase m.style m.name
  | .getterVerb => m.getterVerb
  | .setterVerb => m.setterVerb

def valueOfKey (m : Member) (k : Text) : Option Text :=
  (Placeholder.ofKey? k).map m.value

def renderGetter (t : Template) (m : Member) : Except TemplateError Text :=
  Template.render t.name m.valueOfKey t.getter

def renderSetter (t : Template) (m : Member) : Except TemplateError Text :=
  (Template.render t.name m.valueOfKey t.setter).map Body.closeGaps

end Member

end Accessors

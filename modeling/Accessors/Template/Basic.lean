import Accessors.Naming.Style
import Accessors.Template.Body
import Accessors.Template.Placeholder

/-!
# Templates

A template says how the getter and the setter of a member are written.
-/

namespace Accessors

structure Template where
  name : Text
  style : Style
  getter : Text
  setter : Text
  /-- Whether the setter of a private member is named with a leading underscore. -/
  marksPrivate : Bool
  deriving DecidableEq, Repr

inductive TemplateError
  | unknownTemplate (name : Text) (available : List Text)
  | unknownPlaceholder (template key : Text)
  deriving DecidableEq, Repr

namespace TemplateError

def message : TemplateError → Text
  | unknownTemplate name available =>
    "unknown template '" ++ name ++ "', available: " ++ Text.joinWith ", " available
  | unknownPlaceholder template key =>
    "template '" ++ template ++ "' references unknown placeholder '\x7b\x7b" ++ key ++ "\x7d\x7d'"

end TemplateError

namespace Template

/-- The keys that the bodies use, getter first, each once. -/
def keys (t : Template) : List Text :=
  (Body.keys t.getter ++ Body.keys t.setter).eraseDups

/-- A template is valid if its bodies name known facts only. -/
def validate (t : Template) : Except TemplateError Unit :=
  match t.keys.find? fun k => (Placeholder.ofKey? k).isNone with
  | some k => .error (.unknownPlaceholder t.name k)
  | none => .ok ()

/-- The template with tabs for every four spaces of its bodies. -/
def tabbed (t : Template) : Template :=
  { t with getter := Body.tabbed t.getter, setter := Body.tabbed t.setter }

/-- The template as a source indented with tabs needs it, or as it is. -/
def indented (tabs : Bool) (t : Template) : Template :=
  if tabs then t.tabbed else t

def render (name : Text) (values : Text → Option Text) (body : Text) : Except TemplateError Text :=
  (Body.fill values body).mapError (.unknownPlaceholder name)

end Template

end Accessors

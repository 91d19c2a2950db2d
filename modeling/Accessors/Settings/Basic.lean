import Accessors.Generation.Generator
import Accessors.Settings.UserTemplate

/-!
# Settings

Settings hold the options of generation, the way of indenting, and the user's templates. They
are accepted if every user template is complete and valid, and the active template exists.
-/

namespace Accessors

structure Settings extends Options where
  /-- Indent with tabs instead of four spaces. -/
  useTabs : Bool := true
  templates : NameMap UserTemplate := ∅
  deriving DecidableEq

namespace Settings

def userTemplate (tabs : Bool) (name : Text) (u : UserTemplate) :
    Except SettingsError Template := do
  let t ← u.build name
  t.validate.mapError .template
  return t.indented tabs

/-- Adds user templates in order, up to the first that is refused. -/
def addUsers (tabs : Bool) (c : Catalogue) :
    List (Text × UserTemplate) → Except SettingsError Catalogue
  | [] => .ok c
  | (name, u) :: us => do
    let t ← userTemplate tabs name u
    addUsers tabs (c.add t) us

def addUsersNotices (tabs : Bool) (c : Catalogue) : List (Text × UserTemplate) → List Notice
  | [] => []
  | (name, u) :: us =>
    match userTemplate tabs name u with
    | .ok t => c.addNotice t :: addUsersNotices tabs (c.add t) us
    | .error _ => []

/-- The standard templates, then the user's; a user template replaces a standard one of the same
name. -/
def catalogue (s : Settings) : Except SettingsError Catalogue :=
  addUsers s.useTabs (Catalogue.standard s.useTabs) s.templates.entries

def catalogueNotices (s : Settings) : List Notice :=
  Catalogue.standardNotices s.useTabs ++
    addUsersNotices s.useTabs (Catalogue.standard s.useTabs) s.templates.entries

def validate (s : Settings) : Except SettingsError Unit := do
  let c ← s.catalogue
  let _ ← (c.find s.template).mapError .template
  return ()

end Settings

end Accessors

import Accessors.NameMap
import Accessors.Notice
import Accessors.Template.Standard

/-!
# Catalogues of templates

A catalogue holds templates by name. Adding a template under a name that is taken replaces the
older one.
-/

namespace Accessors

abbrev Catalogue := NameMap Template

namespace Catalogue

def add (c : Catalogue) (t : Template) : Catalogue :=
  c.insert t.name t

def addNotice (c : Catalogue) (t : Template) : Notice :=
  if c.contains t.name then .templateReplaced t.name else .templateAdded t.name

def addAll (c : Catalogue) (ts : List Template) : Catalogue :=
  ts.foldl add c

def addAllNotices (c : Catalogue) : List Template → List Notice
  | [] => []
  | t :: ts => addNotice c t :: addAllNotices (add c t) ts

def find (c : Catalogue) (name : Text) : Except TemplateError Template :=
  match c.find? name with
  | some t => .ok t
  | none => .error (.unknownTemplate name c.names)

def standardTemplates (tabs : Bool) : List Template :=
  Standard.all.map fun s => s.template.indented tabs

def standard (tabs : Bool) : Catalogue :=
  addAll ∅ (standardTemplates tabs)

def standardNotices (tabs : Bool) : List Notice :=
  addAllNotices ∅ (standardTemplates tabs)

end Catalogue

end Accessors

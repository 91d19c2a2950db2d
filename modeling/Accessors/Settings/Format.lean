import Accessors.Settings.Basic
import Accessors.Toml.Document

/-!
# Settings as text

Settings are kept in a TOML document. A document may leave out any setting, which then has its
default, and may hold no other.
-/

namespace Accessors

open Toml (Value Entries)

namespace Settings

def text? : Value → Option Text
  | .text t => some t
  | _ => none

def flag? : Value → Option Bool
  | .flag b => some b
  | _ => none

def texts? : Value → Option (List Text)
  | .array items => items.mapM text?
  | _ => none

def isEmptyValue : Value → Bool
  | .array [] | .table _ [] => true
  | _ => false

/-- A style is its name, or a table whose one key is its name and holds nothing. -/
def style? : Value → Option Style
  | .text t => Style.ofKey? t
  | .table _ [(k, v)] => if isEmptyValue v then Style.ofKey? k else none
  | _ => none

/-- The value of a key that need not be there; `none` if it is there and of the wrong type. -/
def optionalEntry {α : Type} (es : Entries) (k : Text) (read? : Value → Option α) :
    Option (Option α) :=
  match es.lookup k with
  | none => some none
  | some v => (read? v).map some

def optionalItem {α : Type} (vs : List Value) (i : Nat) (read? : Value → Option α) :
    Option (Option α) :=
  match vs[i]? with
  | none => some none
  | some v => (read? v).map some

/-- The keys of a user template, in the order in which an array gives their values. -/
def userKeys : List Text :=
  ["base", "style", "getter", "setter", "prefix_private_setters"]

def hasOnly (keys : List Text) (es : Entries) : Bool :=
  es.all fun e => keys.contains e.1

/-- A user template is a table, or an array of its values in the order of the keys. -/
def userTemplate? : Value → Option UserTemplate
  | .table _ es =>
    if hasOnly userKeys es then do
      return {
        base := ← optionalEntry es "base" text?
        style := ← optionalEntry es "style" style?
        getter := ← optionalEntry es "getter" text?
        setter := ← optionalEntry es "setter" text?
        marksPrivate := ← optionalEntry es "prefix_private_setters" flag? }
    else none
  | .array vs => do
    return {
      base := ← optionalItem vs 0 text?
      style := ← optionalItem vs 1 style?
      getter := ← optionalItem vs 2 text?
      setter := ← optionalItem vs 3 text?
      marksPrivate := ← optionalItem vs 4 flag? }
  | _ => none

def userTemplates? : Value → Option (NameMap UserTemplate)
  | .table _ es =>
    es.foldlM (fun m e => (userTemplate? e.2).map fun u => m.insert e.1 u) ∅
  | _ => none

def settingKeys : List Text :=
  ["template", "ignore_visibility", "type_hint_ignore", "setter_before_getter", "use_tabs",
   "templates"]

def ofEntries? (es : Entries) : Option Settings :=
  let d : Settings := {}
  if hasOnly settingKeys es then do
    return {
      template := (← optionalEntry es "template" text?).getD d.template
      ignoreVisibility := (← optionalEntry es "ignore_visibility" flag?).getD d.ignoreVisibility
      hintIgnore := (← optionalEntry es "type_hint_ignore" texts?).getD d.hintIgnore
      setterFirst := (← optionalEntry es "setter_before_getter" flag?).getD d.setterFirst
      useTabs := (← optionalEntry es "use_tabs" flag?).getD d.useTabs
      templates := (← optionalEntry es "templates" userTemplates?).getD d.templates }
  else none

def read? (t : Text) : Option Settings :=
  (Toml.document? t).bind ofEntries?

/-- Reads settings and checks that they can be used. -/
def parse (t : Text) : Except SettingsError Settings :=
  match read? t with
  | none => .error .malformed
  | some s => s.validate.map fun _ => s

def parseNotices (t : Text) : List Notice :=
  match read? t with
  | none => []
  | some s => s.catalogueNotices

def writeFlag (b : Bool) : Text :=
  if b then "true".toList else "false".toList

/-- A text on a line of its own, as an item of an array. -/
def writeItem (t : Text) : Text :=
  "    " ++ Toml.writeText t ++ ",\n"

/-- An array of at most one text stays on its line; a longer one has a line for each. -/
def writeTexts : List Text → Text
  | [] => "[]"
  | [t] => "[" ++ Toml.writeText t ++ "]"
  | ts => "[\n" ++ ts.flatMap writeItem ++ "]"

def writePair (key value : Text) : Text :=
  key ++ " = " ++ value ++ "\n"

def writeUser (name : Text) (u : UserTemplate) : Text :=
  "\n[templates." ++ Toml.writeKey name ++ "]\n" ++
    u.base.elim [] (fun t => writePair "base" (Toml.writeText t)) ++
    u.style.elim [] (fun s => writePair "style" (Toml.writeText s.key)) ++
    u.getter.elim [] (fun t => writePair "getter" (Toml.writeText t)) ++
    u.setter.elim [] (fun t => writePair "setter" (Toml.writeText t)) ++
    u.marksPrivate.elim [] (fun b => writePair "prefix_private_setters" (writeFlag b))

/-- The settings as a document that reads back to them. -/
def write (s : Settings) : Text :=
  writePair "template" (Toml.writeText s.template) ++
    writePair "ignore_visibility" (writeFlag s.ignoreVisibility) ++
    writePair "type_hint_ignore" (writeTexts s.hintIgnore) ++
    writePair "setter_before_getter" (writeFlag s.setterFirst) ++
    writePair "use_tabs" (writeFlag s.useTabs) ++
    (if s.templates.isEmpty then "\n[templates]\n".toList
      else s.templates.entries.flatMap fun (name, u) => writeUser name u)

end Settings

end Accessors

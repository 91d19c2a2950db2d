import Accessors.Template.Standard

/-!
# User templates

A user template starts from a standard one and replaces parts of it, or spells out its style
and both bodies itself.
-/

namespace Accessors

structure UserTemplate where
  /-- The name of the standard template to start from. -/
  base : Option Text := none
  style : Option Style := none
  getter : Option Text := none
  setter : Option Text := none
  marksPrivate : Option Bool := none
  deriving DecidableEq, Repr

inductive SettingsError
  | notRead (reason : Text)
  | malformed
  | unknownBase (name base : Text)
  | incomplete (name part : Text)
  | template (e : TemplateError)
  deriving DecidableEq, Repr

namespace SettingsError

def malformedReason : Text := "TOML parse error"

def message : SettingsError → Text
  | notRead reason => "failed to read config file: " ++ reason
  | malformed => "failed to parse config: " ++ malformedReason
  | unknownBase name base =>
    "template '" ++ name ++ "' extends unknown built-in '" ++ base ++ "'"
  | incomplete name part =>
    "template '" ++ name ++ "' is missing '" ++ part ++ "' and has no base"
  | template e => e.message

end SettingsError

namespace UserTemplate

/-- The standard template to start from, if one is named. -/
def inherited (name : Text) (u : UserTemplate) : Except SettingsError (Option Template) :=
  match u.base with
  | none => .ok none
  | some base =>
    match Standard.ofName? base with
    | some s => .ok (some s.template)
    | none => .error (.unknownBase name base)

/-- A part of the template: its own, or else that of the template it starts from. -/
def part {α : Type} (name : Text) (own : Option α) (base : Option Template) (get : Template → α)
    (what : Text) : Except SettingsError α :=
  match own.or (base.map get) with
  | some a => .ok a
  | none => .error (.incomplete name what)

def build (name : Text) (u : UserTemplate) : Except SettingsError Template := do
  let base ← u.inherited name
  let style ← part name u.style base Template.style "style"
  let getter ← part name u.getter base Template.getter "getter"
  let setter ← part name u.setter base Template.setter "setter"
  return {
    name, style, getter, setter
    marksPrivate := (u.marksPrivate.or (base.map Template.marksPrivate)).getD true }

end UserTemplate

end Accessors

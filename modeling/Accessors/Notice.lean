import Accessors.Text.Basic

/-!
# Notices

What a run tells its user beside its result. Operations return their notices in the order in
which they arise; who prints them decides by level which are shown.
-/

namespace Accessors

inductive Level
  | warning
  | debug
  deriving DecidableEq, Repr

inductive Notice
  /-- A doc comment line that begins like a tag and has no value. -/
  | unreadableTag (line : Text)
  /-- A declaration without a name that PHP would take. -/
  | namelessDeclaration (line : Nat) (text : Text)
  /-- A declared type that cannot be a type hint, since it is more than one type. -/
  | severalTypes (type : Text)
  | noSuchMember (name : Text)
  | methodPresent (name : Text)
  | methodRepeated (name : Text)
  | templateAdded (name : Text)
  | templateReplaced (name : Text)
  | settingsFound (path : Text)
  | settingsAbsent
  | inputNotInteractive
  | memberPicked (name : Text)
  deriving DecidableEq, Repr

namespace Notice

def level : Notice → Level
  | unreadableTag _ | namelessDeclaration .. | severalTypes _ | noSuchMember _ => .warning
  | _ => .debug

def message : Notice → Text
  | unreadableTag line => "could not parse docblock line: " ++ line
  | namelessDeclaration line text =>
    "skipping declaration without a usable name at line " ++ Text.ofNat line ++ ": " ++ text
  | severalTypes type => "'" ++ type ++ "' is more than one type, switching to no type hint"
  | noSuchMember name => "no member named '" ++ name ++ "'"
  | methodPresent name => "function " ++ name ++ " already present, skipping"
  | methodRepeated name => "function " ++ name ++ " already generated in this batch, skipping"
  | templateAdded name => "registered template '" ++ name ++ "'"
  | templateReplaced name => "replaced template '" ++ name ++ "'"
  | settingsFound path => "loading configuration from " ++ path
  | settingsAbsent => "no getset.toml found, using defaults"
  | inputNotInteractive => "stdin is not a tty"
  | memberPicked name => "picked member " ++ name

def warnings (notices : List Notice) : List Notice :=
  notices.filter fun n => n.level = .warning

end Notice

end Accessors

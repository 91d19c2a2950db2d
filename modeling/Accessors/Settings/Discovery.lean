import Accessors.Disk.Basic
import Accessors.Settings.Format

/-!
# Finding settings

The settings of a source are those of the nearest directory above it that has any. A file that
is found is used or reported, never passed over.
-/

namespace Accessors

namespace Settings

def fileName : Text := "getset.toml"

/-- Where settings may be, nearest first. -/
def candidates (start : Text) : List Text :=
  (Path.ancestors start).map fun dir => Path.join dir fileName

/-- The nearest settings file of a directory or one above it. -/
def find? (disk : Disk) (start : Text) : Option Text :=
  (candidates start).find? disk.isFile

def load (disk : Disk) (path : Text) : Except SettingsError Settings :=
  match disk.read path with
  | .ok t => parse t
  | .error e => .error (.notRead e.message)

def loadNotices (disk : Disk) (path : Text) : List Notice :=
  match disk.read path with
  | .ok t => parseNotices t
  | .error _ => []

def discover (disk : Disk) (start : Text) : Except SettingsError Settings :=
  match find? disk start with
  | some path => load disk path
  | none => .ok {}

def discoverNotices (disk : Disk) (start : Text) : List Notice :=
  match find? disk start with
  | some path => .settingsFound path :: loadNotices disk path
  | none => [.settingsAbsent]

end Settings

end Accessors

import Accessors.Command.Invocation
import Accessors.Command.Report
import Accessors.Settings.Discovery

/-!
# Preparing a run

A run needs a source, the settings that apply to it, and the catalogue and options that these
give. The source must be PHP unless it is forced.
-/

namespace Accessors

namespace Command

structure Input where
  /-- The path of its file; standard input has none. -/
  path : Option Text
  text : Text
  deriving DecidableEq, Repr

namespace Input

def origin (i : Input) : Text :=
  i.path.getD "stdin"

/-- The directory where the search for settings begins: that of the file, or the working
directory. -/
def settingsRoot (workingDir : Text) (path : Option Text) : Text :=
  match path.bind Path.parent? with
  | some dir => if dir.isEmpty then workingDir else dir
  | none => workingDir

/-- The file argument, unless it stands for standard input. -/
def path? (file : Option Text) : Option Text :=
  file.filter fun p => !Path.isName ['-'] p

def read (disk : Disk) (stdin : ByteArray) (file : Option Text) : Except Failure Input :=
  match path? file with
  | some p =>
    match disk.read p with
    | .ok text => .ok ⟨some p, text⟩
    | .error e => .error ⟨"Failed to read '" ++ p ++ "'", [e.message]⟩
  | none =>
    match readBytes stdin with
    | .ok text => .ok ⟨none, text⟩
    | .error e => .error ⟨"Failed to read from stdin", [e.message]⟩

end Input

/-- The causes that a settings error stands for: those that wrap another come before it. -/
def settingsCauses (e : SettingsError) : List Text :=
  match e with
  | .notRead reason => [e.message, reason]
  | .malformed => [e.message, SettingsError.malformedReason]
  | _ => [e.message]

def loadSettings (disk : Disk) (config : Option Text) (root : Text) : Except Failure Settings :=
  match config with
  | some p =>
    (Settings.load disk p).mapError fun e =>
      ⟨"Failed to load config '" ++ p ++ "'", settingsCauses e⟩
  | none =>
    (Settings.discover disk root).mapError fun e =>
      ⟨"Failed to load getset.toml", settingsCauses e⟩

def loadNotices (disk : Disk) (config : Option Text) (root : Text) : List Notice :=
  match config with
  | some p => Settings.loadNotices disk p
  | none => Settings.discoverNotices disk root

def loadCatalogue (s : Settings) : Except Failure Catalogue :=
  s.catalogue.mapError fun e => ⟨"Failed to register templates", settingsCauses e⟩

structure Workspace where
  input : Input
  catalogue : Catalogue
  options : Options

def notPhp (origin : Text) : Failure :=
  ⟨"Only available for PHP sources: '" ++ origin ++
    "' has no `<?php` tag (use --force to override)", []⟩

/-- The options of a run: the template given counts before the one in the settings. -/
def runOptions (s : Settings) (template : Option Text) : Options :=
  { s.toOptions with template := template.getD s.template }

/-- Reads the source and what applies to it, with the notices of doing so. -/
def prepare (disk : Disk) (stdin : ByteArray) (a : SourceArguments) :
    List Notice × Except Failure Workspace :=
  match Input.read disk stdin a.file with
  | .error f => ([], .error f)
  | .ok input =>
    if !a.force && !isPhp input.text then ([], .error (notPhp input.origin))
    else
      let root := Input.settingsRoot disk.workingDir input.path
      let loading := loadNotices disk a.config root
      match loadSettings disk a.config root with
      | .error f => (loading, .error f)
      | .ok s =>
        (loading ++ s.catalogueNotices,
          (loadCatalogue s).map fun c => ⟨input, c, runOptions s a.template⟩)

end Command

end Accessors

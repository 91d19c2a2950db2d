import Accessors.Command.Choice
import Accessors.Command.Listing
import Accessors.Command.Workspace
import Accessors.Disk.FileTree
import Accessors.Source.Insertion

/-!
# Runs

A run depends on the arguments, the disk and the standard input. It generates, lists, or asks for a
member. Only a run that generates may have a file written, as its last step, and how that went
decides how the run ends. What a run prints is taken to arrive.
-/

namespace Accessors

namespace Command

def Report.after (notices : List Notice) (r : Report) : Report :=
  { r with messages := notices.map .notice ++ r.messages }

def Report.failed (f : Failure) : Report :=
  { failure := some f }

def Report.said (t : Text) : Report :=
  { messages := [.line t] }

/-- Goes on with a prepared source, or reports why there is none. -/
def withWorkspace (disk : Disk) (stdin : ByteArray) (a : SourceArguments)
    (next : Workspace → Generator → Report) : Report :=
  let (notices, workspace) := prepare disk stdin a
  Report.after notices <|
    match workspace with
    | .error f => .failed f
    | .ok w =>
      match Generator.resolve w.catalogue w.options with
      | .error e => .failed ⟨e.message, []⟩
      | .ok g => next w g

/-- Where generated code goes: to the output, or into the file of the source. -/
def deliver (w : Workspace) (made : Generated) (write : Bool) : Report :=
  if made.isEmpty then .said "Nothing to generate"
  else if write then
    match w.input.path with
    | none => .failed ⟨"--write needs a file argument, not stdin", []⟩
    | some p =>
      match Insertion.insert? w.input.text made.code with
      | none => .failed ⟨"No closing brace found to insert accessors before", []⟩
      | some text =>
        { write := some (p, text)
          done := [.line ("Added " ++ Text.joinWith ", " made.emitted ++ " to " ++ p)] }
  else { out := made.code }

def skippedLines (made : Generated) : List Message :=
  made.existing.map fun name => .line ("Skipped " ++ name ++ ": already present")

def generate (w : Workspace) (g : Generator) (kind : Kind) (selection : Selection)
    (write : Bool) : Report :=
  Report.after (g.notices w.input.text kind selection) <|
    match g.generate w.input.text kind selection with
    | .error e => .failed ⟨e.message, []⟩
    | .ok made =>
      let r := deliver w made write
      { r with messages := skippedLines made ++ r.messages }

def list (w : Workspace) (g : Generator) (json : Bool) : Report :=
  let members := g.members w.input.text
  let skipped := (Survey.ofSource w.input.text).skipped
  Report.after (g.memberNotices w.input.text)
    { out :=
        if json then listingJson members skipped else memberTable w.input.origin members skipped }

def answer (w : Workspace) (g : Generator) (kind : Kind) (write : Bool)
    (names : List Text) (line : Text) : Report :=
  match choose names line with
  | .error e => .failed ⟨e.message, []⟩
  | .ok none => .said "Cancelled"
  | .ok (some i) =>
    match names[i]? with
    | none => .said "Cancelled"
    | some name =>
      Report.after [.memberPicked name] (generate w g kind (.named name) write)

/-- Reads the answer and acts on it; the end of the input cancels. -/
def respond (w : Workspace) (g : Generator) (kind : Kind) (write : Bool) (names : List Text)
    (answers : List UInt8) : Report :=
  match firstLine? answers with
  | none => .said "Cancelled"
  | some line =>
    match readBytes ⟨line.toArray⟩ with
    | .error e => .failed ⟨e.message, [e.message]⟩
    | .ok line => answer w g kind write names line

/-- Offers the members of a source and generates for the one chosen. A source that came from
standard input leaves no answer there. -/
def pick (w : Workspace) (g : Generator) (kind : Kind) (write : Bool) (stdin : ByteArray) :
    Report :=
  let items := g.items w.input.text
  Report.after (g.memberNotices w.input.text) <|
    if items.isEmpty then .said ("No members found in " ++ w.input.origin)
    else
      let answers := if w.input.path.isSome then stdin.toList else []
      let offer := items.zipIdx.flatMap fun ((name, description), i) => itemRow i name description
      let r := respond w g kind write (items.map Prod.fst) answers
      Report.after [.inputNotInteractive] { r with out := offer ++ r.out }

/-- Lists the templates that the settings of the working directory give. -/
def templates (disk : Disk) (config : Option Text) : Report :=
  let loading := loadNotices disk config disk.workingDir
  match loadSettings disk config disk.workingDir with
  | .error f => Report.after loading (.failed f)
  | .ok s =>
    Report.after (loading ++ s.catalogueNotices) <|
      match loadCatalogue s with
      | .error f => .failed f
      | .ok c => { out := c.entries.flatMap fun e => templateRow s.template e.2 }

def Action.run (disk : Disk) (stdin : ByteArray) : Action → Report
  | generate kind source name write =>
    withWorkspace disk stdin source fun w g =>
      Command.generate w g kind (name.elim .all .named) write
  | list source json => withWorkspace disk stdin source fun w g => Command.list w g json
  | pick source kind write =>
    withWorkspace disk stdin source fun w g => Command.pick w g kind write stdin
  | templates config => Command.templates disk config

def versionLine : Text := "getset 0.1.0\n"

def usage : Text :=
  "Usage: getset [-v] (getters|setters|accessors|list|pick|templates) [OPTIONS] [FILE]\n"

/-- Runs a command line. Refused arguments end with status two. -/
def run {m : Type → Type} [Monad m] (write : Text → ByteArray → m (Except OsError Unit))
    (disk : Disk) (stdin : ByteArray) (filter : Option Text) (args : List Text) : m Outcome :=
  match readInvocation {} args with
  | .error .refused => pure { status := 2, err := usage }
  | .error .help => pure { status := 0, out := usage }
  | .error .version => pure { status := 0, out := versionLine }
  | .ok i => return ((← (i.action.run disk stdin).settle write).outcome (.choose filter i.verbose))

/-- Runs a command line in a file tree that nothing else changes, and gives the tree that it
leaves. -/
def runIn (t : FileTree) (stdin : ByteArray) (filter : Option Text) (args : List Text) :
    Outcome × FileTree :=
  (run FileTree.write t.disk stdin filter args).run t

def settingsPaths (config : Option Text) (root : Text) : List Text :=
  match config with
  | some p => [p]
  | none => Settings.candidates root

def SourceArguments.paths (workingDir : Text) (a : SourceArguments) : List Text :=
  let path := Input.path? a.file
  path.toList ++ settingsPaths a.config (Input.settingsRoot workingDir path)

def Action.paths (workingDir : Text) : Action → List Text
  | generate _ source _ _ | list source _ | pick source _ _ => source.paths workingDir
  | templates config => settingsPaths config workingDir

/-- Whether an action reads standard input, for a source or an answer. -/
def Action.readsInput : Action → Bool
  | generate _ source _ _ | list source _ => (Input.path? source.file).isNone
  | pick .. => true
  | templates _ => false

/-- The paths that a run looks at. -/
def lookedAt (workingDir : Text) (args : List Text) : List Text :=
  match readInvocation {} args with
  | .ok i => i.action.paths workingDir
  | .error _ => []

def readsInput (args : List Text) : Bool :=
  match readInvocation {} args with
  | .ok i => i.action.readsInput
  | .error _ => false

end Command

end Accessors

import Accessors.Disk.Basic

/-!
# File trees

A file tree holds all files and directories from the root on, each listed by the names that lead to
it; there are no links, so that these are the only names for it. A run takes place in one of the
directories. A file may refuse to be read or to be written, and writing may break off before all is
written. A directory may refuse to be entered.
-/

namespace Accessors

structure File where
  bytes : ByteArray
  refusesReading : Option OsError := none
  refusesWriting : Option OsError := none
  /-- The number of bytes after which writing breaks off, and why it does. -/
  breaksOff : Option (Nat × OsError) := none

inductive Node
  | file (f : File)
  | directory (refusesEntry : Option OsError)

structure FileTree where
  entries : List (List Text × Node) := []
  /-- The names that lead from the root to the working directory. -/
  workingDir : List Text := []

namespace File

def content (f : File) : Except OsError ByteArray :=
  match f.refusesReading with
  | some e => .error e
  | none => .ok f.bytes

/-- Replaces the contents. A file that refuses keeps what it has; one where writing breaks off has
lost it, and holds the beginning of what was to be written. -/
def write (f : File) (bytes : ByteArray) : Except OsError Unit × File :=
  match f.refusesWriting with
  | some e => (.error e, f)
  | none =>
    match f.breaksOff.filter fun limit => limit.1 < bytes.size with
    | some (n, e) => (.error e, { f with bytes := bytes.extract 0 n })
    | none => (.ok (), { f with bytes := bytes })

end File

namespace FileTree

/-- What the names lead to; no names lead to the root. -/
def node? (t : FileTree) (names : List Text) : Option Node :=
  if names.isEmpty then some (.directory none) else t.entries.lookup names

/-- One step of a walk: on to a name, or up, or nowhere. -/
def step (t : FileTree) (names : List Text) (name : Text) : Except OsError (List Text) :=
  match t.node? names with
  | none => .error .missing
  | some (.file _) => .error .notDirectory
  | some (.directory refusal) =>
    if name.isEmpty then .ok names
    else
      match refusal with
      | some e => .error e
      | none =>
        if name = ['.'] then .ok names
        else if name = ['.', '.'] then .ok names.dropLast
        else if (t.node? (names ++ [name])).isSome then .ok (names ++ [name])
        else .error .missing

def start (t : FileTree) (path : Text) : List Text :=
  match path with
  | '/' :: _ => []
  | _ => t.workingDir

/-- The place of a path, given by the names that lead to it. The empty path has none. -/
def place (t : FileTree) (path : Text) : Except OsError (List Text) :=
  if path.isEmpty then .error .missing
  else (Text.pieces '/' path).foldlM t.step (t.start path)

def look (t : FileTree) (path : Text) : Entry :=
  match t.place path with
  | .error e => .refused e
  | .ok names =>
    match t.node? names with
    | some (.file f) => ⟨true, f.content⟩
    | some (.directory refusal) => .refused (refusal.getD .isDirectory)
    | none => .refused .missing

def disk (t : FileTree) : Disk where
  workingDir := Path.ofNames true t.workingDir
  look := t.look

def put (t : FileTree) (names : List Text) (f : File) : FileTree :=
  { t with entries := t.entries.map fun e => if e.1 = names then (e.1, .file f) else e }

/-- Writes into a file that is there; none is made. -/
def write (path : Text) (bytes : ByteArray) : StateM FileTree (Except OsError Unit) := fun t =>
  match t.place path with
  | .error e => (.error e, t)
  | .ok names =>
    match t.node? names with
    | some (.file f) => ((f.write bytes).1, t.put names (f.write bytes).2)
    | some (.directory _) => (.error .isDirectory, t)
    | none => (.error .missing, t)

end FileTree

end Accessors

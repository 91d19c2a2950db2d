import Accessors.Disk.Path

/-!
# What a run sees of the disk

A run asks of a path whether it leads to a regular file and what reading it gives. The two are
answered apart, since a regular file may refuse to be read. All reading goes through such a view,
so that a run is a function of the view.
-/

namespace Accessors

/-- A refusal of the system. -/
structure OsError where
  reason : Text
  code : Nat
  deriving DecidableEq, Repr

namespace OsError

def missing : OsError := ⟨"No such file or directory", 2⟩

def denied : OsError := ⟨"Permission denied", 13⟩

def notDirectory : OsError := ⟨"Not a directory", 20⟩

def isDirectory : OsError := ⟨"Is a directory", 21⟩

def message (e : OsError) : Text :=
  e.reason ++ " (os error " ++ Text.ofNat e.code ++ ")"

end OsError

/-- What a path leads to. What is no regular file may be read all the same. -/
structure Entry where
  isFile : Bool
  content : Except OsError ByteArray

def Entry.refused (e : OsError) : Entry :=
  ⟨false, .error e⟩

structure Disk where
  /-- The absolute path of the working directory. -/
  workingDir : Text
  look : Text → Entry

inductive ReadError
  | refused (e : OsError)
  | notText
  deriving DecidableEq, Repr

def ReadError.message : ReadError → Text
  | refused e => e.message
  | notText => "stream did not contain valid UTF-8"

def readBytes (bytes : ByteArray) : Except ReadError Text :=
  match Text.ofBytes? bytes with
  | some t => .ok t
  | none => .error .notText

namespace Disk

/-- A disk of which only some paths are known. -/
def ofEntries (workingDir : Text) (entries : List (Text × Entry)) : Disk where
  workingDir := workingDir
  look path := (entries.lookup path).getD (.refused .missing)

def isFile (d : Disk) (path : Text) : Bool :=
  (d.look path).isFile

def read (d : Disk) (path : Text) : Except ReadError Text :=
  match (d.look path).content with
  | .ok bytes => readBytes bytes
  | .error e => .error (.refused e)

end Disk

end Accessors

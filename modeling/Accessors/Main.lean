import Accessors.Command.Run

/-!
# The program

Looks up the paths that a run depends on, and runs the command line on them.
-/

namespace Accessors

namespace Program

def osError : IO.Error → OsError
  | .alreadyExists _ code reason | .interrupted _ code reason | .noFileOrDirectory _ code reason
  | .invalidArgument _ code reason | .permissionDenied _ code reason
  | .resourceExhausted _ code reason | .inappropriateType _ code reason
  | .noSuchThing _ code reason | .otherError code reason | .resourceBusy code reason
  | .resourceVanished code reason | .unsupportedOperation code reason | .hardwareFault code reason
  | .unsatisfiedConstraints code reason | .illegalOperation code reason
  | .protocolError code reason | .timeExpired code reason => ⟨reason, code.toNat⟩
  | e => ⟨toString e, 0⟩

def attempt {α : Type} (action : IO α) : IO (Except OsError α) := do
  try
    return .ok (← action)
  catch e =>
    return .error (osError e)

def look (path : Text) : IO Entry := do
  let place := (← IO.currentDir) / String.ofList path
  return {
    isFile := match ← attempt place.metadata with
      | .ok data => data.type == .file
      | .error _ => false
    content := ← attempt do (← IO.FS.Handle.mk (String.ofList path) .read).readBinToEnd }

def write (path : Text) (bytes : ByteArray) : IO (Except OsError Unit) :=
  attempt do
    let file ← IO.FS.Handle.mk (String.ofList path) .write
    file.write bytes
    file.flush

partial def readAll (stream : IO.FS.Stream) (bytes : ByteArray) : IO ByteArray := do
  let more ← stream.read 65536
  if more.isEmpty then return bytes else readAll stream (bytes ++ more)

/-- The part of the disk that the arguments make a run look at. -/
def snapshot (args : List Text) : IO Disk := do
  let workingDir := (toString (← IO.currentDir)).toList
  let entries ← (Command.lookedAt workingDir args).mapM fun p => return (p, ← look p)
  return .ofEntries workingDir entries

def input (args : List Text) : IO ByteArray := do
  if Command.readsInput args then readAll (← IO.getStdin) .empty else return .empty

end Program

end Accessors

open Accessors in
def main (args : List String) : IO UInt32 := do
  let args := args.map String.toList
  let filter := (← IO.getEnv "RUST_LOG").map String.toList
  let disk ← Program.snapshot args
  let outcome ← Command.run Program.write disk (← Program.input args) filter args
  IO.print (String.ofList outcome.out)
  IO.eprint (String.ofList outcome.err)
  return UInt32.ofNat outcome.status

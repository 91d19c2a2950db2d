import Accessors.Disk.Basic
import Accessors.Notice

/-!
# Reports

A run reports what it prints, what it tells, and the one file that it asks to be written. The
report is complete once that was tried. Notices and other messages share the error output, in order;
which notices are shown is decided at the end.
-/

namespace Accessors

namespace Command

inductive Message
  | notice (n : Notice)
  | line (t : Text)
  deriving DecidableEq, Repr

/-- Why a run failed: what could not be done, and the causes of that, nearest first. -/
structure Failure where
  text : Text
  causes : List Text := []
  deriving DecidableEq, Repr

structure Report where
  out : Text := []
  messages : List Message := []
  /-- The path of a file and its new text. -/
  write : Option (Text × Text) := none
  /-- What is told once the file is written. -/
  done : List Message := []
  failure : Option Failure := none
  deriving DecidableEq, Repr

namespace Report

/-- The report after the attempt to write its file. -/
def written (r : Report) (path : Text) : Except OsError Unit → Report
  | .ok () => { r with messages := r.messages ++ r.done }
  | .error e => { r with failure := some ⟨"Failed to write '" ++ path ++ "'", [e.message]⟩ }

/-- Has the file written that the report asks for. -/
def settle {m : Type → Type} [Monad m] (write : Text → ByteArray → m (Except OsError Unit))
    (r : Report) : m Report :=
  match r.write with
  | none => pure r
  | some (path, text) => return r.written path (← write path (Text.toBytes text))

end Report

inductive Threshold
  | nothing
  | warnings
  | everything
  deriving DecidableEq, Repr

namespace Threshold

/-- The threshold that a log filter names: a level by its name, in any case, or its number. -/
def ofFilter (t : Text) : Threshold :=
  let level := String.ofList (t.map Char.toLower)
  if ["debug", "trace", "4", "5"].contains level then everything
  else if ["warn", "info", "2", "3"].contains level then warnings
  else nothing

/-- A filter decides alone; without one the verbose flag does. -/
def choose (filter : Option Text) (verbose : Bool) : Threshold :=
  match filter with
  | some t => ofFilter t
  | none => if verbose then everything else warnings

def shows : Threshold → Level → Bool
  | everything, _ => true
  | warnings, .warning => true
  | _, _ => false

end Threshold

/-- A character of a notice. Those that could steer a terminal are written as escapes. -/
def visible (c : Char) : Text :=
  let n := c.toNat
  if n = 0x1b ∨ n = 0x07 ∨ n = 0x08 ∨ n = 0x0c ∨ n = 0x7f then "\\x" ++ Text.hexDigits 2 n
  else if 0x80 ≤ n ∧ n ≤ 0x9f then "\\u\x7b" ++ Text.hexDigits 2 n ++ "\x7d"
  else [c]

def levelText : Level → Text
  | .warning => " WARN "
  | .debug => "DEBUG "

def Message.render (threshold : Threshold) : Message → Text
  | notice n =>
    if threshold.shows n.level then levelText n.level ++ n.message.flatMap visible ++ ['\n'] else []
  | line t => t ++ ['\n']

/-- A text whose lines after the first are indented. -/
def hang (indent : Nat) (t : Text) : Text :=
  Text.joinWith ('\n' :: List.replicate indent ' ') (Text.lines t)

/-- One cause stands alone; several are numbered from zero. -/
def causeLines : List Text → Text
  | [c] => "\n    " ++ hang 4 c
  | cs =>
    cs.zipIdx.flatMap fun (c, i) =>
      ['\n'] ++ Text.padLeft 5 (Text.ofNat i) ++ ": " ++ hang 7 c

def causes : List Text → Text
  | [] => []
  | cs => "\n\nCaused by:" ++ causeLines cs

def Failure.render (f : Failure) : Text :=
  "Error: " ++ f.text ++ Command.causes f.causes ++ ['\n']

structure Outcome where
  status : Nat
  out : Text := []
  err : Text := []
  deriving DecidableEq, Repr

/-- A report as the user sees it; a failed run ends with status one. -/
def Report.outcome (threshold : Threshold) (r : Report) : Outcome where
  status := if r.failure.isSome then 1 else 0
  out := r.out
  err := r.messages.flatMap (Message.render threshold) ++ r.failure.elim [] Failure.render

end Command

end Accessors

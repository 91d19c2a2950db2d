import Accessors.Command.Given

/-!
# Command line arguments

The arguments are read from left to right. Flags and parameters may stand before and after
the file; short flags may be bundled, and a parameter may end the bundle. Anything else is refused.
-/

namespace Accessors

namespace Command

/-- An argument that cannot be a value of its own, since it begins with a dash; a lone dash can. -/
def isDashed : Text → Bool
  | '-' :: _ :: _ => true
  | _ => false

/-- Reads a bundle of short flags. The last may be a parameter, whose value is the rest of the
bundle, or else the next argument. -/
def readBundle (grammar : Grammar) (g : Given) : Text → Except Stop (Given × Option Parameter)
  | [] => .ok (g, none)
  | c :: rest =>
    match grammar.flags.find? fun f => f.short? == some c with
    | some f => (g.addFlag f).bind fun g => readBundle grammar g rest
    | none =>
      match grammar.parameters.find? fun s => s.short == c with
      | none => .error .refused
      | some s =>
        match rest with
        | [] => .ok (g, some s)
        | '=' :: value => (g.addParameter s value).map fun g => (g, none)
        | value => (g.addParameter s value).map fun g => (g, none)

/-- Reads a long flag or parameter. Its value follows an equals sign, or else is the next
argument. -/
def readLong (grammar : Grammar) (g : Given) (t : Text) : Except Stop (Given × Option Parameter) :=
  let name := t.takeWhile (· != '=')
  let value? := (t.dropWhile (· != '=')).tail?
  match grammar.flags.find? fun f => f.long == name with
  | some f => if value?.isSome then .error .refused else (g.addFlag f).map fun g => (g, none)
  | none =>
    match grammar.parameters.find? fun s => s.long == name, value? with
    | none, _ => .error .refused
    | some s, none => .ok (g, some s)
    | some s, some value => (g.addParameter s value).map fun g => (g, none)

def readDashed (grammar : Grammar) (g : Given) : Text → Except Stop (Given × Option Parameter)
  | '-' :: '-' :: t => readLong grammar g t
  | '-' :: t => readBundle grammar g t
  | _ => .error .refused

/-- Reads the arguments of a command. After two dashes all are files. -/
def readArguments (grammar : Grammar) (onlyFiles : Bool) (g : Given) :
    List Text → Except Stop Given
  | [] => .ok g
  | a :: rest =>
    if onlyFiles || !isDashed a then
      (g.addFile grammar a).bind fun g => readArguments grammar onlyFiles g rest
    else if a == ['-', '-'] then readArguments grammar true g rest
    else
      match readDashed grammar g a, rest with
      | .error e, _ => .error e
      | .ok (g, none), rest => readArguments grammar false g rest
      | .ok (_, some _), [] => .error .refused
      | .ok (g, some s), value :: rest =>
        if isDashed value then .error .refused
        else (g.addParameter s value).bind fun g => readArguments grammar false g rest

end Command

end Accessors

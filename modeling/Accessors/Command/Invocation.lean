import Accessors.Command.Arguments

/-!
# Invocations

A command line names one command. Flags of the program may stand before it, its own arguments
follow.
-/

namespace Accessors

namespace Command

structure SourceArguments where
  file : Option Text
  config : Option Text
  template : Option Text
  /-- Take the source even if it is not PHP. -/
  force : Bool
  deriving DecidableEq, Repr

inductive Action
  | generate (kind : Kind) (source : SourceArguments) (name : Option Text) (write : Bool)
  | list (source : SourceArguments) (json : Bool)
  | pick (source : SourceArguments) (kind : Kind) (write : Bool)
  | templates (config : Option Text)
  deriving DecidableEq, Repr

structure Invocation where
  verbose : Bool
  action : Action
  deriving DecidableEq, Repr

def sourceArguments (g : Given) : SourceArguments where
  file := g.file
  config := g.value? .config
  template := g.value? .template
  force := g.has .force

def generateAction (kind : Kind) (g : Given) : Action :=
  .generate kind (sourceArguments g) (g.value? .name) (g.has .write)

def pickAction (g : Given) : Action :=
  .pick (sourceArguments g) (((g.value? .kind).bind Parameter.kindOf?).getD .both) (g.has .write)

def generateGrammar : Grammar where
  flags := [.verbose, .force, .write, .help]
  parameters := [.config, .template, .name]
  takesFile := true

def listGrammar : Grammar where
  flags := [.verbose, .force, .json, .help]
  parameters := [.config, .template]
  takesFile := true

def pickGrammar : Grammar where
  flags := [.verbose, .force, .write, .help]
  parameters := [.config, .template, .kind]
  takesFile := true

def templatesGrammar : Grammar where
  flags := [.verbose, .help]
  parameters := [.config]
  takesFile := false

/-- What may stand before the name of the command. -/
def commonGrammar : Grammar where
  flags := [.verbose, .help, .version]
  parameters := []
  takesFile := false

def commands : List (Text × Grammar × (Given → Action)) :=
  [("getters", generateGrammar, generateAction .getters),
   ("setters", generateGrammar, generateAction .setters),
   ("accessors", generateGrammar, generateAction .both),
   ("list", listGrammar, fun g => .list (sourceArguments g) (g.has .json)),
   ("pick", pickGrammar, pickAction),
   ("templates", templatesGrammar, fun g => .templates (g.value? .config))]

/-- What a call for help leads to. It may name one command, and help is itself one. -/
def readHelp : List Text → Stop
  | [] => .help
  | [name] => if name == "help" || (commands.lookup name).isSome then .help else .refused
  | _ => .refused

/-- Reads a command line: flags, the name of a command, and its arguments. -/
def readInvocation (g : Given) : List Text → Except Stop Invocation
  | [] => .error .refused
  | a :: rest =>
    if isDashed a && a != ['-', '-'] then
      (readDashed commonGrammar g a).bind fun (g, _) => readInvocation g rest
    else if a == "help" then .error (readHelp rest)
    else
      match commands.lookup a with
      | none => .error .refused
      | some (grammar, action) =>
        (readArguments grammar false {} rest).map fun sub =>
          ⟨g.has .verbose || sub.has .verbose, action sub⟩

end Command

end Accessors

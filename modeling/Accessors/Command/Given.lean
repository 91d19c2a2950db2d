import Accessors.Generation.Batch

/-!
# Flags, parameters and files

What a command line may give, and what a command takes of it. Nothing may be given twice.
-/

namespace Accessors

namespace Command

inductive Flag
  | verbose
  | force
  | write
  | json
  | help
  | version
  deriving DecidableEq, Repr

namespace Flag

def long : Flag → Text
  | verbose => "verbose"
  | force => "force"
  | write => "write"
  | json => "json"
  | help => "help"
  | version => "version"

def short? : Flag → Option Char
  | verbose => some 'v'
  | write => some 'w'
  | help => some 'h'
  | version => some 'V'
  | force | json => none

end Flag

/-- A parameter is given with a value. -/
inductive Parameter
  | config
  | template
  | name
  | kind
  deriving DecidableEq, Repr

namespace Parameter

def long : Parameter → Text
  | config => "config"
  | template => "template"
  | name => "name"
  | kind => "kind"

def short : Parameter → Char
  | config => 'c'
  | template => 't'
  | name => 'n'
  | kind => 'k'

def kindOf? (value : Text) : Option Kind :=
  List.lookup value
    [("getters".toList, .getters), ("setters".toList, .setters), ("accessors".toList, .both)]

/-- Whether the parameter takes the value: a path is not empty, and a kind is a known one. -/
def takes : Parameter → Text → Bool
  | config, value => !value.isEmpty
  | kind, value => (kindOf? value).isSome
  | template, _ | name, _ => true

end Parameter

structure Grammar where
  flags : List Flag
  parameters : List Parameter
  takesFile : Bool

structure Given where
  flags : List Flag := []
  parameters : List (Parameter × Text) := []
  file : Option Text := none
  deriving DecidableEq, Repr

inductive Stop
  | refused
  | help
  | version
  deriving DecidableEq, Repr

namespace Given

def has (g : Given) (f : Flag) : Bool :=
  g.flags.contains f

def value? (g : Given) (s : Parameter) : Option Text :=
  g.parameters.lookup s

/-- A flag is given once; two of them end the reading. -/
def addFlag (g : Given) (f : Flag) : Except Stop Given :=
  match f with
  | .help => .error .help
  | .version => .error .version
  | f => if g.has f then .error .refused else .ok { g with flags := f :: g.flags }

/-- A parameter is given once, with a value that it takes. -/
def addParameter (g : Given) (s : Parameter) (value : Text) : Except Stop Given :=
  if (g.value? s).isSome || !s.takes value then .error .refused
  else .ok { g with parameters := (s, value) :: g.parameters }

def addFile (g : Given) (grammar : Grammar) (path : Text) : Except Stop Given :=
  if grammar.takesFile && g.file.isNone && !path.isEmpty then .ok { g with file := some path }
  else .error .refused

end Given

end Command

end Accessors

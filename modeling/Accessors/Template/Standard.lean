import Accessors.Template.Basic

/-!
# Standard templates

Five templates are always at hand. They differ in the style of the method names, in whether the
setter returns the object, and in how much the doc comments say.
-/

namespace Accessors

inductive Standard
  | psr2
  | camelCase
  | camelCaseFluent
  | snakeCase
  | snakeCaseFluent
  deriving DecidableEq, Repr

namespace Standard

def all : List Standard :=
  [psr2, camelCase, camelCaseFluent, snakeCase, snakeCaseFluent]

def name : Standard → Text
  | psr2 => "PSR2"
  | camelCase => "CamelCase"
  | camelCaseFluent => "CamelCaseFluent"
  | snakeCase => "SnakeCase"
  | snakeCaseFluent => "SnakeCaseFluent"

def ofName? (n : Text) : Option Standard :=
  all.find? fun s => s.name == n

def style : Standard → Style
  | psr2 | camelCase | camelCaseFluent => .camel
  | snakeCase | snakeCaseFluent => .snake

def isFluent : Standard → Bool
  | psr2 | camelCaseFluent | snakeCaseFluent => true
  | camelCase | snakeCase => false

/-- Whether the comments hold types only, and the setter is public whatever the member is. -/
def isTerse : Standard → Bool
  | psr2 => true
  | _ => false

/-- The parameter of the setter: the member's own name, or that without its underscore. -/
def parameter (s : Standard) : Text :=
  '$' :: (if s.isTerse then Placeholder.name else Placeholder.param).mark

def parameterWord : Style → Placeholder
  | .camel => .phrase
  | .snake => .name

def indent (level : Nat) (lines : List Text) : Text :=
  lines.flatMap fun l =>
    if l.isEmpty then ['\n'] else List.replicate (4 * level) ' ' ++ l ++ ['\n']

def commentLine (l : Text) : Text :=
  if l.isEmpty then " *".toList else " * ".toList ++ l

def comment (lines : List Text) : List Text :=
  ["/**".toList] ++ lines.map commentLine ++ [" */".toList]

/-- A method: a blank line, its doc comment, its signature and its statements. -/
def method (doc : List Text) (signature : Text) (statements : List Text) : Text :=
  ['\n'] ++ indent 1 (comment doc ++ [signature, ['\x7b']]) ++ indent 2 statements ++
    indent 1 [['\x7d']]

/-- The opening words of a doc comment, which terse templates leave out. -/
def opening (s : Standard) (verb : Text) : List Text :=
  if s.isTerse then [] else [verb ++ " the " ++ Placeholder.description.mark ++ ".", []]

def getter (s : Standard) : Text :=
  method
    (s.opening "Gets" ++ ["@return " ++ Placeholder.type.mark])
    ("public function " ++ Placeholder.getterVerb.mark ++ s.style.separator ++
      Placeholder.stem.mark ++ "()")
    ["return $this->" ++ Placeholder.name.mark ++ ";"]

def parameterLine (s : Standard) : Text :=
  let line : Text := "@param " ++ Placeholder.type.mark ++ " " ++ s.parameter
  if s.isTerse then line else line ++ " the " ++ (parameterWord s.style).mark

def resultLine (s : Standard) : Text :=
  if s.isFluent then "@return self".toList else "@return void".toList

def setterOpening (s : Standard) : Text :=
  if s.isTerse then "public function ".toList
  else Placeholder.visibility.mark ++ " function " ++ Placeholder.visibilityMark.mark

def setter (s : Standard) : Text :=
  method
    (s.opening "Sets" ++ [s.parameterLine, [], s.resultLine])
    (s.setterOpening ++ Placeholder.setterVerb.mark ++ s.style.separator ++
      Placeholder.stem.mark ++ "(" ++ Placeholder.typeHint.mark ++ " " ++ s.parameter ++ ")")
    (["$this->" ++ Placeholder.name.mark ++ " = " ++ s.parameter ++ ";"] ++
      if s.isFluent then [[], "return $this;".toList] else [])

def template (s : Standard) : Template where
  name := s.name
  style := s.style
  getter := s.getter
  setter := s.setter
  marksPrivate := !s.isTerse

end Standard

end Accessors

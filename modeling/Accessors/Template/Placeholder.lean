import Accessors.Text.Basic

/-!
# Placeholders

The facts about a member that a template body can name.
-/

namespace Accessors

inductive Placeholder
  | name
  | param
  | visibility
  | visibilityMark
  | type
  | stem
  | description
  | typeHint
  | phrase
  | getterVerb
  | setterVerb
  deriving DecidableEq, Repr

namespace Placeholder

def all : List Placeholder :=
  [name, param, visibility, visibilityMark, type, stem, description, typeHint, phrase, getterVerb,
   setterVerb]

/-- The word that stands for the fact in a template body. -/
def key : Placeholder → Text
  | name => "name"
  | param => "param"
  | visibility => "visibility"
  | visibilityMark => "visibilityPrefix"
  | type => "type"
  | stem => "normalizedName"
  | description => "description"
  | typeHint => "typeHint"
  | phrase => "humanName"
  | getterVerb => "getterPrefix"
  | setterVerb => "setterPrefix"

def ofKey? (k : Text) : Option Placeholder :=
  all.find? fun p => p.key == k

def mark (p : Placeholder) : Text :=
  '\x7b' :: '\x7b' :: p.key ++ ['\x7d', '\x7d']

end Placeholder

end Accessors

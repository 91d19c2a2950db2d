import Accessors.Text.Basic

/-!
# Visibility of a member

The keyword is read in any ASCII letter case.
-/

namespace Accessors

inductive Visibility
  | isPublic
  | isProtected
  | isPrivate
  deriving DecidableEq, Repr

namespace Visibility

def all : List Visibility :=
  [isPublic, isProtected, isPrivate]

def keyword : Visibility → Text
  | isPublic => "public"
  | isProtected => "protected"
  | isPrivate => "private"

def ofText? (t : Text) : Option Visibility :=
  all.find? fun v => v.keyword == t.map Char.toLower

/-- Reads a keyword at the start of `t`; no keyword begins another. -/
def read? (t : Text) : Option (Visibility × Text) :=
  all.findSome? fun v =>
    let n := v.keyword.length
    if (t.take n).map Char.toLower = v.keyword then some (v, t.drop n) else none

def unknownMessage (t : Text) : Text :=
  "unknown visibility '" ++ t ++ "'"

end Visibility

end Accessors

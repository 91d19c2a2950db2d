import Accessors.Text.Basic

/-!
# Choosing a member

The answer is the number of a member or its name, with or without the dollar sign.
-/

namespace Accessors

namespace Command

inductive ChoiceError
  | noIndex (index count : Nat)
  | noName (name : Text)
  deriving DecidableEq, Repr

def ChoiceError.message : ChoiceError → Text
  | noIndex index count =>
    "No member at index " ++ Text.ofNat index ++ " (0-" ++ Text.ofNat (count - 1) ++ ")"
  | noName name => "No member named '" ++ name ++ "'"

def digitsValue (digits : Text) : Nat :=
  digits.foldl (fun n c => 10 * n + (c.toNat - '0'.toNat)) 0

/-- Reads digits, before which a plus may stand, as a number of 64 bits. -/
def index? (t : Text) : Option Nat :=
  let digits := match t with
    | '+' :: r => r
    | r => r
  if digits ≠ [] ∧ digits.all Char.isDigit ∧ digitsValue digits < Nat.pow 2 64 then
    some (digitsValue digits)
  else none

/-- The index that an answer means; a blank answer means none. -/
def choose (names : List Text) (answer : Text) : Except ChoiceError (Option Nat) :=
  let t := Text.trim answer
  if t.isEmpty then .ok none
  else
    match index? t with
    | some i => if i < names.length then .ok (some i) else .error (.noIndex i names.length)
    | none =>
      let name := t.dropWhile (· == '$')
      match names.idxOf? name with
      | some i => .ok (some i)
      | none => .error (.noName name)

/-- The bytes of the first line, without its line end; `none` at the end of the input. -/
def firstLine? (input : List UInt8) : Option (List UInt8) :=
  if input.isEmpty then none
  else
    let line := input.takeWhile (· != 10)
    if line.length < input.length ∧ line.getLast? = some 13 then some line.dropLast else some line

end Command

end Accessors

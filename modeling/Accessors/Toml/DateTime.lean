import Accessors.Toml.Number

/-!
# Dates and times in TOML

A date must exist in the calendar. As with numbers, nothing is kept of a date.
-/

namespace Accessors

namespace Toml

/-- A number of exactly `width` decimal digits between two bounds. -/
def fixedNumber? (width least most : Nat) (t : Text) : Option (Nat × Text) :=
  let ds := t.take width
  let n := numberOf 10 ds
  if ds.length = width ∧ ds.all (isDigitIn 10) ∧ least ≤ n ∧ n ≤ most then
    some (n, t.drop width)
  else none

def after? (c : Char) : Text → Option Text
  | d :: t => if d = c then some t else none
  | [] => none

def isLeapYear (year : Nat) : Bool :=
  year % 4 = 0 && (year % 100 != 0 || year % 400 = 0)

def daysIn (year month : Nat) : Nat :=
  if month = 2 then if isLeapYear year then 29 else 28
  else if month = 4 ∨ month = 6 ∨ month = 9 ∨ month = 11 then 30
  else 31

def date? (t : Text) : Option Text := do
  let (year, t) ← fixedNumber? 4 0 9999 t
  let (month, t) ← fixedNumber? 2 1 12 (← after? '-' t)
  let (_, t) ← fixedNumber? 2 1 (daysIn year month) (← after? '-' t)
  return t

def skipFraction (t : Text) : Text :=
  match t with
  | '.' :: c :: rest => if isDigitIn 10 c then rest.dropWhile (isDigitIn 10) else t
  | _ => t

/-- An hour, a minute and a second, which may be a leap second. -/
def time? (t : Text) : Option Text := do
  let (_, t) ← fixedNumber? 2 0 23 t
  let (_, t) ← fixedNumber? 2 0 59 (← after? ':' t)
  let (_, t) ← fixedNumber? 2 0 60 (← after? ':' t)
  return skipFraction t

def offset? (t : Text) : Option Text :=
  match t with
  | 'Z' :: rest | 'z' :: rest => some rest
  | '+' :: t | '-' :: t => do
    let (_, t) ← fixedNumber? 2 0 23 t
    let (_, t) ← fixedNumber? 2 0 59 (← after? ':' t)
    return t
  | _ => none

/-- The time that may follow a date, with its offset. -/
def timeOfDate? (t : Text) : Option Text :=
  match t with
  | 'T' :: t | 't' :: t | ' ' :: t => (time? t).map fun t => (offset? t).getD t
  | _ => none

/-- A date, with or without a time, or a time alone. -/
def dateTime? (t : Text) : Option Text :=
  match date? t with
  | some t => some ((timeOfDate? t).getD t)
  | none => time? t

end Toml

end Accessors

import Accessors.Toml.Quoted

/-!
# Numbers in TOML

No setting is a number, so the readers check the form and the range of a number and return only
the rest of the input.
-/

namespace Accessors

namespace Toml

def isDigitIn (base : Nat) (c : Char) : Bool :=
  match hexDigit? c with
  | some d => d < base
  | none => false

/-- The digits at the start of a text, and the rest. An underscore may stand between two. -/
def digitsAndRest (base : Nat) : Text → Text × Text
  | '_' :: c :: t =>
    if isDigitIn base c then
      let (ds, rest) := digitsAndRest base t
      (c :: ds, rest)
    else ([], '_' :: c :: t)
  | c :: t =>
    if isDigitIn base c then
      let (ds, rest) := digitsAndRest base t
      (c :: ds, rest)
    else ([], c :: t)
  | [] => ([], [])

/-- One or more digits, the first of them at the start. -/
def digits? (base : Nat) : Text → Option (Text × Text)
  | c :: t => if isDigitIn base c then some (digitsAndRest base (c :: t)) else none
  | [] => none

/-- The digits of a decimal integer: a zero, or digits that begin with no zero. -/
def decimalDigits? : Text → Option (Text × Text)
  | '0' :: t => some (['0'], t)
  | t => digits? 10 t

def numberOf (base : Nat) (digits : Text) : Nat :=
  digits.foldl (fun n c => base * n + (hexDigit? c).getD 0) 0

/-- A sign that need not be there: whether it is a minus, and the rest. -/
def sign : Text → Bool × Text
  | '-' :: t => (true, t)
  | '+' :: t => (false, t)
  | t => (false, t)

/-- A natural number of 63 bits in another base, after the mark of the base. -/
def basedInteger? (base : Nat) (t : Text) : Option Text :=
  (digits? base t).bind fun (ds, rest) =>
    if numberOf base ds < Nat.pow 2 63 then some rest else none

/-- An integer of 64 bits. Only a decimal one has a sign. -/
def integer? (t : Text) : Option Text :=
  match t with
  | '0' :: 'x' :: t => basedInteger? 16 t
  | '0' :: 'o' :: t => basedInteger? 8 t
  | '0' :: 'b' :: t => basedInteger? 2 t
  | t =>
    let (negative, t) := sign t
    (decimalDigits? t).bind fun (ds, rest) =>
      if numberOf 10 ds < Nat.pow 2 63 + negative.toNat then some rest else none

def fraction? : Text → Option (Text × Text)
  | '.' :: t => digits? 10 t
  | _ => none

def exponent? (t : Text) : Option (Int × Text) :=
  match t with
  | 'e' :: t | 'E' :: t =>
    let (negative, t) := sign t
    (digits? 10 t).map fun (ds, rest) =>
      (if negative then -(numberOf 10 ds : Int) else numberOf 10 ds, rest)
  | _ => none

/-- The fraction and the exponent of a number that has at least one of them. -/
def fractionAndExponent? (t : Text) : Option ((Text × Int) × Text) :=
  match fraction? t with
  | some (fs, t) =>
    match exponent? t with
    | some (e, rest) => some ((fs, e), rest)
    | none => some ((fs, 0), t)
  | none => (exponent? t).map fun (e, rest) => (([], e), rest)

/-- The least number that rounds to no finite binary number of 64 bits: the middle between the
greatest of them and the next power of two. -/
def leastInfinite : Nat := Nat.pow 2 1024 - Nat.pow 2 970

/-- Whether the digits times a power of ten reach `leastInfinite`. A number with an exponent
above 308 does unless it is zero, and one with no more digits than places does not. -/
def isInfinite (digits : Text) (exponent : Int) : Bool :=
  let n := numberOf 10 digits
  match exponent with
  | .ofNat e => n != 0 && (308 < e || leastInfinite ≤ n * Nat.pow 10 e)
  | .negSucc e => e + 1 < digits.length && leastInfinite * Nat.pow 10 (e + 1) ≤ n

/-- A number with a fraction or an exponent. A negative one may be of any size. -/
def float? (t : Text) : Option Text :=
  let (negative, t) := sign t
  (decimalDigits? t).bind fun (ds, t) =>
    (fractionAndExponent? t).bind fun ((fs, e), rest) =>
      if !negative && isInfinite (ds ++ fs) (e - fs.length) then none else some rest

def namedFloat? (t : Text) : Option Text :=
  match (sign t).2 with
  | 'i' :: 'n' :: 'f' :: rest | 'n' :: 'a' :: 'n' :: rest => some rest
  | _ => none

def number? (t : Text) : Option Text :=
  ((float? t).or (namedFloat? t)).or (integer? t)

end Toml

end Accessors

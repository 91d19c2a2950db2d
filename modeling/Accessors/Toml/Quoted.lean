import Accessors.Text.Basic

/-!
# Quoted texts in TOML

Four forms quote a text: between double or single quotes, on one line or on several. Only the
forms with double quotes know escapes. Readers take what follows the opening quotes, and return
the text and the rest of the input.
-/

namespace Accessors

namespace Toml

/-- A character that may stand unescaped on a line: no control character but tab. -/
def isTextual (c : Char) : Bool :=
  c == '\t' || (decide (0x20 ≤ c.toNat) && c.toNat != 0x7f)

def hexDigit? (c : Char) : Option Nat :=
  if '0' ≤ c ∧ c ≤ '9' then some (c.toNat - '0'.toNat)
  else if 'a' ≤ c ∧ c ≤ 'f' then some (c.toNat - 'a'.toNat + 10)
  else if 'A' ≤ c ∧ c ≤ 'F' then some (c.toNat - 'A'.toNat + 10)
  else none

def hexValue? (digits : Text) : Option Nat :=
  digits.foldl (fun n? c => n?.bind fun n => (hexDigit? c).map (16 * n + ·)) (some 0)

def scalar? (n : Nat) : Option Char :=
  if n.isValidChar then some (Char.ofNat n) else none

def codePoint? (width : Nat) (t : Text) : Option (Char × Text) :=
  if t.length < width then none
  else (hexValue? (t.take width)).bind fun n => (scalar? n).map fun c => (c, t.drop width)

/-- The character that an escape stands for, after the backslash. -/
def escape? : Text → Option (Char × Text)
  | 'b' :: t => some ('\x08', t)
  | 't' :: t => some ('\t', t)
  | 'n' :: t => some ('\n', t)
  | 'f' :: t => some ('\x0c', t)
  | 'r' :: t => some ('\r', t)
  | '"' :: t => some ('"', t)
  | '\\' :: t => some ('\\', t)
  | 'u' :: t => codePoint? 4 t
  | 'U' :: t => codePoint? 8 t
  | _ => none

theorem codePoint?_shorter {n : Nat} {t r : Text} {c : Char} (h : codePoint? n t = some (c, r)) :
    r.length ≤ t.length := by
  simp only [codePoint?] at h
  split at h
  · cases h
  · obtain ⟨m, -, h⟩ := Option.bind_eq_some_iff.mp h
    obtain ⟨d, -, h⟩ := Option.map_eq_some_iff.mp h
    obtain ⟨-, rfl⟩ := Prod.mk.inj h
    simp

theorem escape?_shorter {t r : Text} {c : Char} (h : escape? t = some (c, r)) :
    r.length < t.length := by
  unfold escape? at h
  split at h
  case h_8 | h_9 => exact Nat.lt_succ_of_le (codePoint?_shorter h)
  case h_10 => cases h
  all_goals
    obtain ⟨-, rfl⟩ := Prod.mk.inj (Option.some.inj h)
    exact Nat.lt_succ_self _

/-- One line between double quotes. -/
def basic? : Text → Option (Text × Text)
  | [] => none
  | '"' :: t => some ([], t)
  | '\\' :: t =>
    match _h : escape? t with
    | some (c, rest) => (basic? rest).map fun (a, r) => (c :: a, r)
    | none => none
  | c :: t => if isTextual c then (basic? t).map fun (a, r) => (c :: a, r) else none
termination_by t => t.length
decreasing_by
  · have := escape?_shorter _h
    simp only [List.length_cons]
    omega
  · exact Nat.lt_succ_self _

def literal? : Text → Option (Text × Text)
  | [] => none
  | '\'' :: t => some ([], t)
  | c :: t => if isTextual c then (literal? t).map fun (a, r) => (c :: a, r) else none

/-- The end of a form on several lines, after three quotes: up to two more belong to the text. -/
def closing (quote : Char) : Text → Text × Text
  | a :: b :: t =>
    if a = quote then if b = quote then ([a, b], t) else ([a], b :: t) else ([], a :: b :: t)
  | [a] => if a = quote then ([a], []) else ([], [a])
  | [] => ([], [])

def newline? : Text → Option Text
  | '\n' :: t => some t
  | '\r' :: '\n' :: t => some t
  | _ => none

/-- A line end right after the opening quotes belongs to no text. -/
def dropNewline (t : Text) : Text :=
  (newline? t).getD t

def skipSpace : Text → Text
  | ' ' :: t => skipSpace t
  | '\t' :: t => skipSpace t
  | '\n' :: t => skipSpace t
  | '\r' :: '\n' :: t => skipSpace t
  | t => t

theorem skipSpace_le (t : Text) : (skipSpace t).length ≤ t.length := by
  fun_induction skipSpace t with
  | case1 t ih | case2 t ih | case3 t ih | case4 t ih =>
    simp only [List.length_cons]
    omega
  | case5 => exact Nat.le_refl _

theorem newline?_shorter {t r : Text} (h : newline? t = some r) : r.length < t.length := by
  unfold newline? at h
  split at h
  · cases h
    exact Nat.lt_succ_self _
  · cases h
    simp only [List.length_cons]
    omega
  · cases h

/-- A backslash at the end of a line, given what follows it: the text goes on at the next
character that is no white space. -/
def continued? (t : Text) : Option Text :=
  (newline? (t.dropWhile isBlank)).map skipSpace

theorem continued?_shorter {t r : Text} (h : continued? t = some r) : r.length < t.length := by
  obtain ⟨s, hs, rfl⟩ := Option.map_eq_some_iff.mp h
  have h₁ := newline?_shorter hs
  have h₂ := skipSpace_le s
  have h₃ := (List.dropWhile_sublist isBlank (l := t)).length_le
  omega

/-- Several lines between double quotes. A line end counts as a line feed. -/
def basicLines? (t : Text) : Option (Text × Text) :=
  match t with
  | [] => none
  | '"' :: '"' :: '"' :: t => some (closing '"' t)
  | '\\' :: t =>
    match _h : continued? t with
    | some rest => basicLines? rest
    | none =>
      match _h : escape? t with
      | some (c, rest) => (basicLines? rest).map fun (a, r) => (c :: a, r)
      | none => none
  | '\r' :: '\n' :: t => (basicLines? t).map fun (a, r) => ('\n' :: a, r)
  | c :: t =>
    if isTextual c || c == '\n' then (basicLines? t).map fun (a, r) => (c :: a, r) else none
termination_by t.length
decreasing_by
  · have := continued?_shorter _h
    simp only [List.length_cons]
    omega
  · have := escape?_shorter _h
    simp only [List.length_cons]
    omega
  · simp only [List.length_cons]
    omega
  · exact Nat.lt_succ_self _

def literalLines? : Text → Option (Text × Text)
  | [] => none
  | '\'' :: '\'' :: '\'' :: t => some (closing '\'' t)
  | '\r' :: '\n' :: t => (literalLines? t).map fun (a, r) => ('\n' :: a, r)
  | c :: t =>
    if isTextual c || c == '\n' then (literalLines? t).map fun (a, r) => (c :: a, r) else none

def quoted? : Text → Option (Text × Text)
  | '"' :: '"' :: '"' :: t => basicLines? (dropNewline t)
  | '"' :: t => basic? t
  | '\'' :: '\'' :: '\'' :: t => literalLines? (dropNewline t)
  | '\'' :: t => literal? t
  | _ => none

/-- A control character that no form shows as it is; tab and line feed are not among them. -/
def isControl (c : Char) : Bool :=
  !isTextual c && c != '\n'

/-- A character between double quotes on one line. -/
def escaped (c : Char) : Text :=
  match c with
  | '\x08' => "\\b"
  | '\t' => "\\t"
  | '\n' => "\\n"
  | '\x0c' => "\\f"
  | '\r' => "\\r"
  | '"' => "\\\""
  | '\\' => "\\\\"
  | c =>
    if isTextual c then [c]
    else "\\u" ++ (Text.hexDigits 4 c.toNat).map Char.toUpper

/-- Between double quotes on several lines a line feed stands for itself, and of a run of quotes
every third is escaped; `run` counts the quotes since the last other character or escape. -/
def escapedLines (run : Nat) : Text → Text
  | [] => []
  | '\n' :: t => '\n' :: escapedLines 0 t
  | '"' :: t =>
    if run = 2 then '\\' :: '"' :: escapedLines 0 t else '"' :: escapedLines (run + 1) t
  | c :: t => escaped c ++ escapedLines 0 t

/-- Whether three `c` follow each other in a text. -/
def hasTriple (c : Char) (t : Text) : Bool :=
  Text.occursIn [c, c, c] t

def writeBasic (t : Text) : Text :=
  '"' :: t.flatMap escaped ++ ['"']

def writeLiteral (t : Text) : Text :=
  '\'' :: t ++ ['\'']

/-- The line end after opening quotes, which only texts with a line feed get. -/
def leadingNewline (t : Text) : Text :=
  if t.contains '\n' then ['\n'] else []

def writeBasicLines (t : Text) : Text :=
  "\"\"\"" ++ leadingNewline t ++ escapedLines 0 t ++ "\"\"\""

def writeLiteralLines (t : Text) : Text :=
  "'''" ++ leadingNewline t ++ t ++ "'''"

/-- A text as a value, in the first form that shows it without escapes, if there is one. -/
def writeText (t : Text) : Text :=
  let shown := !t.any isControl
  let oneLine := !t.contains '\n'
  if shown && !t.contains '\\' && !t.contains '"' && oneLine then writeBasic t
  else if shown && !t.contains '\'' && oneLine then writeLiteral t
  else if shown && !t.contains '\\' && !hasTriple '"' t then writeBasicLines t
  else if shown && !hasTriple '\'' t then writeLiteralLines t
  else if oneLine then writeBasic t
  else writeBasicLines t

def isBare (c : Char) : Bool :=
  c.isAlphanum || c == '_' || c == '-'

def keyPart? : Text → Option (Text × Text)
  | '"' :: t => basic? t
  | '\'' :: t => literal? t
  | t =>
    match t.takeWhile isBare with
    | [] => none
    | c :: name => some (c :: name, t.dropWhile isBare)

def writeKey (t : Text) : Text :=
  if !t.isEmpty && t.all isBare then t
  else if t.all isTextual && !t.contains '\\' && !t.contains '"' then writeBasic t
  else if t.all isTextual && !t.contains '\'' then writeLiteral t
  else writeBasic t

end Toml

end Accessors

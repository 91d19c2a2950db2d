import Accessors.Naming.Stem

/-!
# Members in words

Comments speak of a member by the words of its name. In camel case a word is a run without
capitals, led by up to two capitals right before it.
-/

namespace Accessors

namespace Naming

/-- A character that may lead a word: no underscore and no small ASCII letter. -/
def isLead (c : Char) : Bool :=
  c != '_' && !isSmallAscii c

/-- A character of the body of a word: no underscore and no capital ASCII letter. -/
def isBody (c : Char) : Bool :=
  c != '_' && !isCapitalAscii c

/-- A word of `k` leading characters and a body, at the start of `t`, and what follows it. -/
def wordWithLead? (k : Nat) (t : Text) : Option (Text × Text) :=
  let lead := t.take k
  let rest := t.drop k
  let body := rest.takeWhile isBody
  if lead.length = k ∧ lead.all isLead ∧ body ≠ [] then
    some (lead ++ body, rest.dropWhile isBody)
  else none

/-- The word at the start of `t`, with as many of two leading characters as will do. -/
def word? (t : Text) : Option (Text × Text) :=
  ((wordWithLead? 2 t).or (wordWithLead? 1 t)).or (wordWithLead? 0 t)

theorem wordWithLead?_shorter {k : Nat} {t w r : Text} (h : wordWithLead? k t = some (w, r)) :
    r.length < t.length := by
  simp only [wordWithLead?] at h
  split at h
  · next hc =>
    obtain ⟨-, -, hb⟩ := hc
    obtain ⟨-, rfl⟩ := Prod.mk.inj (Option.some.inj h)
    have hs := congrArg List.length (List.takeWhile_append_dropWhile (p := isBody) (l := t.drop k))
    have hp := List.length_pos_iff.mpr hb
    simp only [List.length_append, List.length_drop] at hs
    omega
  · cases h

theorem word?_shorter {t w r : Text} (h : word? t = some (w, r)) : r.length < t.length := by
  simp only [word?, Option.or_eq_some_iff] at h
  rcases h with (h | ⟨-, h⟩) | ⟨-, h⟩ <;> exact wordWithLead?_shorter h

/-- The words of a camel case name, from left to right. A character that begins no word is
passed over. -/
def words : Text → List Text
  | [] => []
  | c :: rest =>
    match _h : word? (c :: rest) with
    | some (w, after) => w :: words after
    | none => words rest
termination_by t => t.length
decreasing_by
  · exact word?_shorter _h
  · exact Nat.lt_succ_self _

def phrase : Style → Text → Text
  | .camel, name => lowerText (Text.joinWith [' '] (words name))
  | .snake, name => name.map fun c => if c = '_' then ' ' else c

end Naming

end Accessors

import Accessors.Text.Basic

/-!
# Paths

A path is kept as it was written. Its parent is found in the text alone, without asking whether
anything exists there: it is the beginning of the path before the last name.
-/

namespace Accessors

namespace Path

/-- The slash of an absolute path, or the dot of a path that begins at the current directory. -/
def start : Text → Text
  | '/' :: _ => ['/']
  | '.' :: '/' :: _ => ['.']
  | ['.'] => ['.']
  | _ => []

/-- Drops slashes and lone dots from the end of a path without its start, given in reverse. -/
def trimEnd : Text → Text
  | '/' :: r => trimEnd r
  | '.' :: '/' :: r => trimEnd r
  | ['.'] => []
  | r => r

/-- What follows the start, in reverse, up to the last name. -/
def body (p : Text) : Text :=
  trimEnd (p.drop (start p).length).reverse

/-- The path before the last name. The root and the empty path have none. -/
def parent? (p : Text) : Option Text :=
  match body p with
  | [] => if start p = ['.'] then some [] else none
  | b => some (start p ++ (trimEnd (b.dropWhile (· != '/'))).reverse)

theorem trimEnd_le (r : Text) : (trimEnd r).length ≤ r.length := by
  fun_induction trimEnd r with
  | case1 r ih | case2 r ih =>
    simp only [List.length_cons]
    omega
  | case3 => exact Nat.zero_le _
  | case4 => exact Nat.le_refl _

theorem head_trimEnd (r : Text) : (trimEnd r).head? ≠ some '/' := by
  fun_induction trimEnd r with
  | case1 r ih => exact ih
  | case2 r ih => exact ih
  | case3 => simp
  | case4 r h₁ h₂ h₃ =>
    cases r with
    | nil => simp
    | cons c r =>
      intro h
      simp only [List.head?_cons, Option.some.injEq] at h
      exact h₁ r (h ▸ rfl)

theorem start_le (p : Text) : (start p).length ≤ p.length := by
  unfold start
  split <;> simp

theorem parent?_shorter {p q : Text} (h : parent? p = some q) : q.length < p.length := by
  have hs := start_le p
  have hb : (body p).length ≤ p.length - (start p).length := by
    have := trimEnd_le (p.drop (start p).length).reverse
    simpa [body] using this
  unfold parent? at h
  split at h
  · split at h
    · next hd =>
      cases h
      rw [hd] at hs
      exact hs
    · cases h
  · next hne =>
    cases h
    have hh := head_trimEnd (p.drop (start p).length).reverse
    change (body p).head? ≠ some '/' at hh
    generalize body p = b at *
    cases b with
    | nil => exact absurd rfl hne
    | cons c b =>
      have hc : (c != '/') = true := by
        simp only [bne_iff_ne, ne_eq]
        rintro rfl
        exact hh rfl
      have hd : (c :: b).dropWhile (· != '/') = b.dropWhile (· != '/') := by
        simp only [List.dropWhile_cons, hc, if_true]
      rw [hd]
      have h₁ := trimEnd_le (b.dropWhile (· != '/'))
      have h₂ := (List.dropWhile_sublist (· != '/') (l := b)).length_le
      simp only [List.length_append, List.length_reverse, List.length_cons] at *
      omega

/-- A path and its parents, nearest first. -/
def ancestors (p : Text) : List Text :=
  p ::
    match _h : parent? p with
    | some q => ancestors q
    | none => []
termination_by p.length
decreasing_by exact parent?_shorter _h

def join (dir name : Text) : Text :=
  if dir.isEmpty then name
  else if Text.endsIn ['/'] dir then dir ++ name
  else dir ++ '/' :: name

/-- The path that the names lead to, from the root or from the current directory. -/
def ofNames (absolute : Bool) (names : List Text) : Text :=
  (if absolute then ['/'] else []) ++ Text.joinWith ['/'] names

/-- Whether a path is the single name `n`, up to slashes and dots after it. -/
def isName (n p : Text) : Bool :=
  start p == [] && body p == n.reverse

end Path

end Accessors

import Accessors.Proofs.TextLaws
import Accessors.Source.DocBlock

/-!
# The doc block attached to a place

The search for a doc block climbs from a place to the lines above it, keeps the lines of the block
on its way, and forgets them wherever another block has been closed. What it finds is described here
from the top: by the last line that is written, by the nearest line above it that can neither be
skipped nor belong to a block, and by the first line that closes a block below that one.
-/

namespace Accessors

open Text

namespace DocBlock

/-- A line that a search inside a block climbs over: it is blank or begins with a star. -/
def IsInner (line : Text) : Prop :=
  trim line = [] ∨ (trim line).head? = some '*'

instance (line : Text) : Decidable (IsInner line) :=
  inferInstanceAs (Decidable (_ ∨ _))

structure HoldsBlock (line : Text) : Prop where
  opened : opener <+: trim line
  closed : closer <:+ trim line
  long : 5 < byteLength (trim line)

def written (ls : List Text) : List Text :=
  ls.filter fun l => !(trim l).isEmpty

/-- The line that opens a block belongs to it if it says more. -/
def opening (line : Text) : List Text :=
  if trim line = opener then [] else [line]

def joined? (ls : List Text) : Option Text :=
  if ls = [] then none else some (joinWith ['\n'] (ls.map clean))

/-- The block that is attached to the end of some lines. -/
inductive Attached : List Text → Option Text → Prop
  /-- No line is written. -/
  | nothing {ls : List Text} (hls : ∀ l ∈ ls, trim l = []) : Attached ls none
  /-- The last written line holds a whole block. -/
  | whole {above blanks : List Text} {last : Text} (hblanks : ∀ l ∈ blanks, trim l = [])
      (hlast : trim last ≠ []) (hcloser : trim last ≠ closer) (hwhole : HoldsBlock last) :
      Attached (above ++ last :: blanks) (some (clean last))
  /-- The last written line neither holds nor closes a block. -/
  | apart {above blanks : List Text} {last : Text} (hblanks : ∀ l ∈ blanks, trim l = [])
      (hlast : trim last ≠ []) (hcloser : trim last ≠ closer) (hwhole : ¬HoldsBlock last) :
      Attached (above ++ last :: blanks) none
  /-- The last written line closes a block, and no line above it can open one. -/
  | unopened {above blanks : List Text} {last : Text} (hblanks : ∀ l ∈ blanks, trim l = [])
      (hcloser : trim last = closer) (habove : ∀ l ∈ above, IsInner l) :
      Attached (above ++ last :: blanks) none
  /-- The nearest line above that is not an inner one does not open a block. -/
  | interrupted {above inner blanks : List Text} {first last : Text}
      (hblanks : ∀ l ∈ blanks, trim l = []) (hcloser : trim last = closer)
      (hinner : ∀ l ∈ inner, IsInner l) (hfirst : ¬IsInner first)
      (hopener : ¬opener <+: trim first) :
      Attached ((above ++ first :: inner) ++ last :: blanks) none
  /-- It opens a block, which the first closing line below it ends. -/
  | opened {above inner blanks block rest : List Text} {first last close : Text}
      (hblanks : ∀ l ∈ blanks, trim l = []) (hcloser : trim last = closer)
      (hinner : ∀ l ∈ inner, IsInner l) (hfirst : ¬IsInner first)
      (hopener : opener <+: trim first) (hbelow : inner ++ [last] = block ++ close :: rest)
      (hclose : trim close = closer) (hblock : ∀ l ∈ block, trim l ≠ closer) :
      Attached ((above ++ first :: inner) ++ last :: blanks)
        (joined? (opening first ++ written block))

/-- What the search keeps of the lines that it has climbed over. -/
def kept (ls : List Text) : List Text :=
  (written (ls.takeWhile fun l => trim l != closer)).map clean

theorem takeWhile_of_split {block rest : List Text} {close : Text}
    (hclose : trim close = closer) (hblock : ∀ l ∈ block, trim l ≠ closer) :
    (block ++ close :: rest).takeWhile (fun l => trim l != closer) = block := by
  rw [List.takeWhile_append_of_pos (by simpa using hblock),
    List.takeWhile_cons_of_neg (by simp [hclose]), List.append_nil]

theorem head?_of_opener {t : Text} (h : opener <+: t) : t.head? = some '/' := by
  obtain ⟨u, rfl⟩ := h
  rfl

/-- One inner line higher, the search has kept what the lines up to there leave of a block. -/
theorem climb_cons_of_isInner {line : Text} (h : IsInner line) (ls above : List Text) :
    climb (kept ls) (line :: above) = climb (kept (line :: ls)) above := by
  rw [climb]
  by_cases hcloser : trim line = closer
  · simp [kept, written, hcloser]
  · by_cases hblank : trim line = []
    · simp [kept, written, hblank, closer]
    · have hstar := h.resolve_left hblank
      have hopener : ¬opener <+: trim line := by
        intro hopener
        rw [head?_of_opener hopener] at hstar
        cases hstar
      simp [kept, written, hcloser, hblank, hstar, hopener]

theorem climb_append_of_isInner {inner : List Text} (h : ∀ l ∈ inner, IsInner l)
    (ls above : List Text) :
    climb (kept ls) (inner ++ above) = climb (kept (inner.reverse ++ ls)) above := by
  induction inner generalizing ls with
  | nil => rfl
  | cons line inner ih =>
    obtain ⟨hline, hinner⟩ := List.forall_mem_cons.mp h
    rw [List.cons_append, climb_cons_of_isInner hline, ih hinner, List.reverse_cons,
      List.append_assoc]
    rfl

/-- At a line that is not an inner one the climb ends. -/
theorem climb_cons_of_not_isInner {line : Text} (h : ¬IsInner line) (ls above : List Text) :
    climb (ls.map clean) (line :: above) =
      if opener <+: trim line then joined? (opening line ++ ls) else none := by
  obtain ⟨hblank, hstar⟩ := not_or.mp h
  have hcloser : trim line ≠ closer := by
    intro hcloser
    rw [hcloser] at hstar
    exact hstar rfl
  rw [climb]
  simp only [if_neg hcloser, if_neg hblank, if_neg hstar, List.isPrefixOf_iff_prefix]
  split
  · by_cases hbare : trim line = opener
    · simp [opening, joined?, hbare]
    · simp [opening, joined?, hbare]
  · rfl

theorem above?_append_of_blank {blanks : List Text} (h : ∀ l ∈ blanks, trim l = [])
    (above : List Text) : above? (blanks ++ above) = above? above := by
  induction blanks with
  | nil => rfl
  | cons line blanks ih =>
    obtain ⟨hline, hblanks⟩ := List.forall_mem_cons.mp h
    rw [List.cons_append, above?]
    simp only [if_pos hline]
    exact ih hblanks

theorem isWhole_iff {line : Text} : isWhole (trim line) = true ↔ HoldsBlock line := by
  simp only [isWhole, endsIn, Bool.and_eq_true, decide_eq_true_eq, List.isPrefixOf_iff_prefix,
    List.isSuffixOf_iff_suffix]
  constructor
  · rintro ⟨⟨hlong, hopened⟩, hclosed⟩
    exact ⟨hopened, hclosed, hlong⟩
  · intro h
    exact ⟨⟨h.long, h.opened⟩, h.closed⟩

/-- The search passes over the blank lines at the end. -/
theorem above?_reverse {blanks : List Text} (h : ∀ l ∈ blanks, trim l = []) (above : List Text)
    (last : Text) : above? (above ++ last :: blanks).reverse = above? (last :: above.reverse) := by
  rw [List.reverse_append, List.reverse_cons, List.append_assoc, List.singleton_append]
  exact above?_append_of_blank (by simpa using h) _

/-- From a line that closes a block, the search climbs over all inner lines above it. -/
theorem above?_reverse_of_closer {above inner blanks : List Text} {last : Text}
    (hblanks : ∀ l ∈ blanks, trim l = []) (hcloser : trim last = closer)
    (hinner : ∀ l ∈ inner, IsInner l) :
    above? ((above ++ inner) ++ last :: blanks).reverse =
      climb (kept (inner ++ [last])) above.reverse := by
  have hstart : ∀ ls, above? (last :: ls) = climb (kept [last]) ls := by
    intro ls
    rw [above?]
    simp [hcloser, closer, kept, written]
  rw [above?_reverse hblanks, hstart, List.reverse_append,
    climb_append_of_isInner (by simpa using hinner), List.reverse_reverse]

theorem above?_reverse_of_first {above inner blanks : List Text} {first last : Text}
    (hblanks : ∀ l ∈ blanks, trim l = []) (hcloser : trim last = closer)
    (hinner : ∀ l ∈ inner, IsInner l) (hfirst : ¬IsInner first) :
    above? ((above ++ first :: inner) ++ last :: blanks).reverse =
      if opener <+: trim first then
        joined? (opening first ++ written ((inner ++ [last]).takeWhile fun l => trim l != closer))
      else none := by
  have hsplit : above ++ first :: inner = (above ++ [first]) ++ inner := by simp
  rw [hsplit, above?_reverse_of_closer hblanks hcloser hinner, List.reverse_append, kept]
  exact climb_cons_of_not_isInner hfirst _ _

/-- The search finds the block that is attached. -/
theorem above?_of_attached {ls : List Text} {block : Option Text} (h : Attached ls block) :
    above? ls.reverse = block := by
  cases h with
  | nothing hls =>
    have hnone := @above?_append_of_blank ls.reverse (by simpa using hls) []
    rwa [List.append_nil] at hnone
  | whole hblanks hlast hcloser hwhole =>
    rw [above?_reverse hblanks, above?]
    simp [hlast, hcloser, isWhole_iff.mpr hwhole]
  | apart hblanks hlast hcloser hwhole =>
    rw [above?_reverse hblanks, above?]
    simp [hlast, hcloser, isWhole_iff, hwhole]
  | unopened hblanks hcloser habove =>
    exact @above?_reverse_of_closer [] _ _ _ hblanks hcloser habove
  | interrupted hblanks hcloser hinner hfirst hopener =>
    rw [above?_reverse_of_first hblanks hcloser hinner hfirst, if_neg hopener]
  | opened hblanks hcloser hinner hfirst hopener hbelow hclose hblock =>
    rw [above?_reverse_of_first hblanks hcloser hinner hfirst, if_pos hopener, hbelow,
      takeWhile_of_split hclose hblock]

/-- The last line without a property, if not all lines have it. -/
theorem exists_last_without (p : Text → Prop) [DecidablePred p] (ls : List Text) :
    (∀ l ∈ ls, p l) ∨ ∃ above last below, ls = above ++ last :: below ∧ ¬p last ∧
      ∀ l ∈ below, p l := by
  induction ls with
  | nil => exact .inl (by simp)
  | cons line ls ih =>
    rcases ih with hall | ⟨above, last, below, rfl, hlast, hbelow⟩
    · by_cases hline : p line
      · exact .inl (List.forall_mem_cons.mpr ⟨hline, hall⟩)
      · exact .inr ⟨[], line, ls, rfl, hline, hall⟩
    · exact .inr ⟨line :: above, last, below, rfl, hlast, hbelow⟩

theorem exists_first_closer {inner : List Text} {last : Text} (h : trim last = closer) :
    ∃ block close rest, inner ++ [last] = block ++ close :: rest ∧ trim close = closer ∧
      ∀ l ∈ block, trim l ≠ closer := by
  have hsome : ((inner ++ [last]).find? fun l => trim l == closer).isSome := by
    simp [h]
  obtain ⟨close, hfind⟩ := Option.isSome_iff_exists.mp hsome
  obtain ⟨hclose, block, rest, hsplit, hblock⟩ := List.find?_eq_some_iff_append.mp hfind
  exact ⟨block, close, rest, hsplit, by simpa using hclose, by simpa using hblock⟩

theorem exists_attached (ls : List Text) : ∃ block, Attached ls block := by
  rcases exists_last_without (fun l => trim l = []) ls with
    hls | ⟨above, last, blanks, rfl, hlast, hblanks⟩
  · exact ⟨none, .nothing hls⟩
  · by_cases hcloser : trim last = closer
    · rcases exists_last_without IsInner above with
        habove | ⟨above, first, inner, rfl, hfirst, hinner⟩
      · exact ⟨none, .unopened hblanks hcloser habove⟩
      · by_cases hopener : opener <+: trim first
        · obtain ⟨block, close, rest, hbelow, hclose, hblock⟩ :=
            @exists_first_closer inner last hcloser
          exact ⟨_, .opened hblanks hcloser hinner hfirst hopener hbelow hclose hblock⟩
        · exact ⟨none, .interrupted hblanks hcloser hinner hfirst hopener⟩
    · by_cases hwhole : HoldsBlock last
      · exact ⟨_, .whole hblanks hlast hcloser hwhole⟩
      · exact ⟨none, .apart hblanks hlast hcloser hwhole⟩

theorem attached_iff {ls : List Text} {block : Option Text} :
    Attached ls block ↔ above? ls.reverse = block := by
  constructor
  · exact above?_of_attached
  · rintro rfl
    obtain ⟨block, hblock⟩ := exists_attached ls
    rwa [above?_of_attached hblock]

end DocBlock

/-- At every place of a source the search for a doc block comes to an end, and what it finds is the
one block that is attached there, or that there is none. -/
theorem search_finds_attached_block (before after : Text) :
    ∃ block, DocBlock.before? (before ++ after) (byteLength before) = some block ∧
      ∀ b, DocBlock.Attached (lines before) b ↔ b = block := by
  refine ⟨DocBlock.above? (lines before).reverse, ?_, fun b => ?_⟩
  · rw [DocBlock.before?, cutAtByte?_append]
    rfl
  · rw [DocBlock.attached_iff, eq_comm]

-- The block ends where it is closed first, whatever stands between there and the place.
example :
    DocBlock.before? "/**\n * one\n */\n * two\n */\n\n" 27 = some (some " * one".toList) := by
  decide

end Accessors

import Accessors.Proofs.SurveyStability

/-!
# Surveys of sources put together

The search for a doc block climbs from the line of a declaration over blank lines and over lines
of the block, however many there are, and ends at any other line. So where the last line of a
source that is not blank belongs to no block, nothing is found above the end of that source from
below, and a source put below it is surveyed as if it stood alone.
-/

namespace Accessors

open Text

def Text.lastWritten? (t : Text) : Option Text :=
  (lines t).reverse.find? fun l => !(trim l).isEmpty

namespace DocBlock

/-- A line that can belong to a doc block: it begins, after white space, with a star or with what
opens a block. -/
def isPart (line : Text) : Bool :=
  (trim line).head? == some '*' || opener.isPrefixOf (trim line)

/-- The search for a doc block ends within these lines, which are given nearest first, or finds
nothing in them. -/
def Stops (ls : List Text) : Prop :=
  ∀ l ∈ ls.find? fun l => !(trim l).isEmpty, isPart l = false

theorem stops_cons_of_blank {line : Text} {ls : List Text} (h : trim line = []) :
    Stops (line :: ls) ↔ Stops ls := by
  rw [Stops, Stops, List.find?_cons_of_neg (by simp [h])]

theorem isPart_eq_false_of_stops {line : Text} {ls : List Text} (hline : trim line ≠ [])
    (h : Stops (line :: ls)) : isPart line = false :=
  h line (List.find?_cons_of_pos (by simp [hline]))

theorem not_opens_of_isPart {line : Text} (h : isPart line = false) :
    trim line ≠ closer ∧ ¬opener.isPrefixOf (trim line) = true ∧
      ¬(trim line).head? = some '*' := by
  rw [isPart, Bool.or_eq_false_iff, beq_eq_false_iff_ne] at h
  refine ⟨fun hcloser => h.1 ?_, Bool.eq_false_iff.mp h.2, h.1⟩
  rw [hcloser]
  rfl

theorem isWhole_eq_false_of_isPart {line : Text} (h : isPart line = false) :
    isWhole (trim line) = false := by
  rw [isWhole, Bool.eq_false_iff.mpr (not_opens_of_isPart h).2.1, Bool.and_false, Bool.false_and]

/-- A block that has not been opened yet is not opened in lines that stop the search. -/
theorem climb_eq_none_of_stops {ls : List Text} (h : Stops ls) (below : List Text) :
    climb below ls = none := by
  induction ls with
  | nil => rfl
  | cons line ls ih =>
    by_cases hblank : trim line = []
    · have hcloser : trim line ≠ closer := by
        rw [hblank]
        decide
      rw [climb]
      simp only [if_neg hcloser, if_pos hblank]
      exact ih ((stops_cons_of_blank hblank).mp h)
    · obtain ⟨hcloser, hopener, hstar⟩ := not_opens_of_isPart (isPart_eq_false_of_stops hblank h)
      rw [climb]
      simp only [if_neg hcloser, if_neg hblank, if_neg hopener, if_neg hstar]

theorem above?_eq_none_of_stops {ls : List Text} (h : Stops ls) : above? ls = none := by
  induction ls with
  | nil => rfl
  | cons line ls ih =>
    rw [above?]
    by_cases hblank : trim line = []
    · simp only [if_pos hblank]
      exact ih ((stops_cons_of_blank hblank).mp h)
    · have hpart := isPart_eq_false_of_stops hblank h
      simp only [if_neg hblank, if_neg (not_opens_of_isPart hpart).1,
        isWhole_eq_false_of_isPart hpart]
      rfl

/-- Inside a block, lines that stop the search are as good as the beginning of the source. -/
theorem climb_append {base : List Text} (h : Stops base) (below ls : List Text) :
    climb below (ls ++ base) = climb below ls := by
  induction ls generalizing below with
  | nil => exact climb_eq_none_of_stops h below
  | cons line ls ih =>
    rw [List.cons_append, climb, climb]
    simp only [ih]

theorem above?_append {base : List Text} (h : Stops base) (ls : List Text) :
    above? (ls ++ base) = above? ls := by
  induction ls with
  | nil => exact above?_eq_none_of_stops h
  | cons line ls ih =>
    rw [List.cons_append, above?, above?, ih, climb_append h]

end DocBlock

/-- A declaration whose line has `n` more lines above it. -/
def Declaration.below (n : Nat) (d : Declaration) : Declaration :=
  { d with line := d.line + n }

def Skipped.below (n : Nat) (s : Skipped) : Skipped :=
  { s with line := s.line + n }

namespace Finding

def below (n : Nat) : Finding → Finding
  | member d => member (d.below n)
  | nameless s => nameless (s.below n)

theorem declaration?_below (n : Nat) (f : Finding) :
    (f.below n).declaration? = f.declaration?.map (Declaration.below n) := by
  cases f <;> rfl

theorem skipped?_below (n : Nat) (f : Finding) :
    (f.below n).skipped? = f.skipped?.map (Skipped.below n) := by
  cases f <;> rfl

theorem read?_append {base : List Text} (h : DocBlock.Stops base) (above : List Text)
    (line : Text) : read? (above ++ base) line = (read? above line).map (below base.length) := by
  have hnumber : (above ++ base).length + 1 = above.length + 1 + base.length := by
    rw [List.length_append]
    omega
  rw [read?, read?, Option.map_map, DocBlock.above?_append h, hnumber]
  congr 1
  funext d
  rw [Function.comp_apply]
  cases DeclarationLine.name? d.text <;> rfl

/-- Lines that stop the search change the numbers of the lines below them and nothing else. -/
theorem readAll_of_stops {base : List Text} (h : DocBlock.Stops base) (above ls : List Text) :
    readAll (above ++ base) ls = (readAll above ls).map (below base.length) := by
  induction ls generalizing above with
  | nil => rfl
  | cons line ls ih =>
    rw [readAll, readAll, read?_append h, ← List.cons_append, ih, List.map_append,
      Option.toList_map]

theorem ofSource_append_newline {a : Text} (h : DocBlock.Stops (lines a).reverse) (b : Text) :
    ofSource (a ++ '\n' :: b) = ofSource a ++ (ofSource b).map (below (lines a).length) := by
  have hbelow := readAll_of_stops h [] (lines b)
  rw [List.nil_append, List.length_reverse] at hbelow
  rw [ofSource, lines_append_newline, readAll_append, List.append_nil, hbelow]
  rfl

end Finding

/-- Surveys are compositional, and documentation does not leak across code: where the last line of
a source that is not blank cannot belong to a doc block, what is put below that source is found
with the names, visibilities, texts and doc comments that it has alone. -/
theorem survey_of_sources_put_together {a : Text}
    (h : ∀ l ∈ lastWritten? a, DocBlock.isPart l = false) (b : Text) :
    (Survey.ofSource (a ++ '\n' :: b)).declarations =
        (Survey.ofSource a).declarations ++
          (Survey.ofSource b).declarations.map (Declaration.below (lines a).length) ∧
      (Survey.ofSource (a ++ '\n' :: b)).skipped =
        (Survey.ofSource a).skipped ++
          (Survey.ofSource b).skipped.map (Skipped.below (lines a).length) := by
  have hfindings := Finding.ofSource_append_newline h b
  simp only [Survey.ofSource, Survey.ofFindings, hfindings, List.filterMap_append,
    List.filterMap_map, List.map_filterMap, Function.comp_def, Finding.declaration?_below,
    Finding.skipped?_below, and_self]

/-- A source that ends in blank lines below a documented member. -/
def upperPart : Text :=
  "class Box \x7b\n    /** @var int */\n    private $size;\n  \t\n"

/-- A source that begins in the middle of a doc block. -/
def lowerPart : Text :=
  "     * @var bool\n     */\n    protected $open = 1;\n    private $2 = 3;\n\x7d\n"

theorem upperPart_above_lowerPart :
    lastWritten? upperPart = some "    private $size;".toList ∧
      DocBlock.isPart "    private $size;" = false ∧
      (Survey.ofSource (upperPart ++ '\n' :: lowerPart)).declarations =
        (Survey.ofSource upperPart).declarations ++
          (Survey.ofSource lowerPart).declarations.map (Declaration.below 5) ∧
      (Survey.ofSource (upperPart ++ '\n' :: lowerPart)).skipped =
        (Survey.ofSource upperPart).skipped ++
          (Survey.ofSource lowerPart).skipped.map (Skipped.below 5) := by
  have hlast : lastWritten? upperPart = some "    private $size;".toList := by decide
  have hpart : DocBlock.isPart "    private $size;" = false := by decide
  have hlines : (lines upperPart).length = 5 := by decide
  refine ⟨hlast, hpart, ?_⟩
  rw [← hlines]
  refine survey_of_sources_put_together (fun l hl => ?_) lowerPart
  rw [hlast, Option.mem_some_iff] at hl
  rw [← hl]
  exact hpart

end Accessors

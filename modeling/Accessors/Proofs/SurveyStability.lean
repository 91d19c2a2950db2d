import Accessors.Proofs.DeclarationLines
import Accessors.Proofs.InsertionPoint

/-!
# Surveys of grown sources

A survey reads a source line by line, and a doc comment stands above what it documents. So code
that declares no member and is inserted below all declarations leaves the survey as it was.
-/

namespace Accessors

open Text

namespace Finding

def line : Finding → Nat
  | member d => d.line
  | nameless s => s.line

theorem line_of_read? {above : List Text} {l : Text} {f : Finding} (h : read? above l = some f) :
    f.line = above.length + 1 := by
  obtain ⟨d, -, hf⟩ := Option.map_eq_some_iff.mp h
  split at hf <;> rw [← hf] <;> rfl

theorem readAll_append (above a b : List Text) :
    readAll above (a ++ b) = readAll above a ++ readAll (a.reverse ++ above) b := by
  induction a generalizing above with
  | nil => rfl
  | cons l a ih =>
    rw [List.cons_append, readAll, ih, readAll, List.append_assoc]
    simp

theorem readAll_eq_nil_iff {above ls : List Text} :
    readAll above ls = [] ↔ ∀ l ∈ ls, DeclarationLine.read? l = none := by
  induction ls generalizing above with
  | nil => simp [readAll]
  | cons l ls ih =>
    rw [readAll, List.append_eq_nil_iff, ih, List.forall_mem_cons, Option.toList_eq_nil_iff, read?,
      Option.map_eq_none_iff]

theorem length_lt_line_of_mem_readAll {above ls : List Text} {f : Finding}
    (h : f ∈ readAll above ls) : above.length < f.line := by
  induction ls generalizing above with
  | nil => cases h
  | cons l ls ih =>
    rcases List.mem_append.mp h with hl | hrest
    · have hline := line_of_read? (Option.mem_toList.mp hl)
      omega
    · have hlt := ih hrest
      rw [List.length_cons] at hlt
      omega

end Finding

def Survey.reported (s : Survey) : List Nat :=
  s.declarations.map Declaration.line ++ s.skipped.map Skipped.line

theorem Survey.line_mem_reported {fs : List Finding} {f : Finding} (h : f ∈ fs) :
    f.line ∈ (ofFindings fs).reported := by
  cases f with
  | member d =>
    apply List.mem_append_left
    exact List.mem_map_of_mem (List.mem_filterMap.mpr ⟨.member d, h, rfl⟩)
  | nameless s =>
    apply List.mem_append_right
    exact List.mem_map_of_mem (List.mem_filterMap.mpr ⟨.nameless s, h, rfl⟩)

/-- Code that can be put between lines: it begins and ends with a line feed unless it is empty,
and none of its lines declares a member. -/
structure Inert (code : Text) : Prop where
  first : (lines code).head? = some []
  last : (lines code).getLast? = some []
  declaresNothing : ∀ l ∈ lines code, DeclarationLine.read? l = none

namespace Inert

theorem nil : Inert [] where
  first := rfl
  last := rfl
  declaresNothing := by
    intro l hl
    rw [List.mem_singleton.mp hl]
    rfl

theorem append {a b : Text} (ha : Inert a) (hb : Inert b) : Inert (a ++ b) := by
  obtain ⟨ps, hps⟩ := List.getLast?_eq_some_iff.mp ha.last
  obtain ⟨qs, hqs⟩ := List.head?_eq_some_iff.mp hb.first
  have hlines : lines (a ++ b) = ps ++ [] :: qs := lines_append hps hqs
  refine ⟨?_, ?_, ?_⟩
  · have hfirst := ha.first
    rw [hps] at hfirst
    rw [hlines]
    cases ps with
    | nil => rfl
    | cons p ps => exact hfirst
  · have hlast := hb.last
    rw [hqs] at hlast
    rw [hlines, List.getLast?_append_of_ne_nil _ (List.cons_ne_nil _ _), hlast]
  · intro l hl
    rw [hlines] at hl
    rcases List.mem_append.mp hl with hl | hl
    · exact ha.declaresNothing l (hps ▸ List.mem_append_left _ hl)
    · exact hb.declaresNothing l (hqs ▸ hl)

theorem flatMap {α : Type} {f : α → Text} {xs : List α} (h : ∀ x ∈ xs, Inert (f x)) :
    Inert (xs.flatMap f) := by
  induction xs with
  | nil => exact nil
  | cons x xs ih =>
    obtain ⟨hx, hxs⟩ := List.forall_mem_cons.mp h
    exact hx.append (ih hxs)

end Inert

/-- The lines of a source that has grown: the line of the insertion is cut in two, with the inner
lines of the code between the parts. -/
theorem Inert.lines_insert {before after code p q : Text} {ps qs : List Text} (hcode : Inert code)
    (hbefore : lines before = ps ++ [p]) (hafter : lines after = q :: qs) :
    code = [] ∨ ∃ ls, (∀ l ∈ ls, DeclarationLine.read? l = none) ∧
      lines (before ++ code ++ after) = ps ++ p :: ls ++ q :: qs := by
  obtain ⟨ls, hls⟩ := List.head?_eq_some_iff.mp hcode.first
  rcases List.eq_nil_or_concat ls with rfl | ⟨ls, l, rfl⟩
  · left
    rw [← joinWith_lines code, hls]
    rfl
  · right
    rw [List.concat_eq_append] at hls
    have hlast := hcode.last
    rw [hls, ← List.cons_append, List.getLast?_append_of_ne_nil _ (List.cons_ne_nil _ _)] at hlast
    obtain rfl : l = [] := Option.some.inj hlast
    have hgrown : lines (before ++ code) = (ps ++ p :: ls) ++ [[]] := by
      rw [lines_append hbefore hls]
      simp
    refine ⟨ls, fun l hl => hcode.declaresNothing l (by simp [hls, hl]), ?_⟩
    rw [lines_append hgrown hafter]
    simp

/-- Inert code inserted below all that a survey reports changes nothing in it. -/
theorem Survey.ofSource_insert {source before after code : Text}
    (hcut : Insertion.cut? source = some (before, after))
    (hreported : ∀ k ∈ (ofSource source).reported, endOfLine source k ≤ byteLength before)
    (hcode : Inert code) : ofSource (before ++ code ++ after) = ofSource source := by
  obtain ⟨rest, rfl, rfl, -, -⟩ := Insertion.cut?_eq_some_iff.mp hcut
  obtain ⟨ps, p, hps⟩ := exists_lines_eq_append before
  obtain ⟨q, qs, hrest⟩ := List.exists_cons_of_ne_nil (lines_ne_nil rest)
  have hqs : lines ('\x7d' :: rest) = ('\x7d' :: q) :: qs := by
    rw [lines, pieces, ← lines, hrest]
    rfl
  have hlines := lines_append hps hqs
  -- The line of the insertion and those below it declare nothing.
  have hbelow : ∀ l ∈ (p ++ '\x7d' :: q) :: qs, DeclarationLine.read? l = none := by
    rw [← @Finding.readAll_eq_nil_iff (ps.reverse ++ []), List.eq_nil_iff_forall_not_mem]
    intro f hf
    have hmem : f ∈ Finding.ofSource (before ++ '\x7d' :: rest) := by
      rw [Finding.ofSource, hlines, Finding.readAll_append]
      exact List.mem_append_right _ hf
    have hle := le_of_endOfLine_le hps hqs (by simp) (hreported _ (line_mem_reported hmem))
    have hlt := Finding.length_lt_line_of_mem_readAll hf
    simp only [List.append_nil, List.length_reverse] at hlt
    omega
  rcases hcode.lines_insert hps hqs with rfl | ⟨ls, hls, hgrown⟩
  · simp
  have hp : DeclarationLine.read? p = none := by
    rw [← Option.not_isSome_iff_eq_none]
    intro hsome
    have happend := DeclarationLine.isSome_read?_append hsome ('\x7d' :: q)
    rw [hbelow _ List.mem_cons_self] at happend
    cases happend
  have hbrace : DeclarationLine.read? ('\x7d' :: q) = none :=
    DeclarationLine.read?_eq_none_of_isPlain rfl
  have hnew : ∀ l ∈ p :: ls ++ ('\x7d' :: q) :: qs, DeclarationLine.read? l = none := by
    simp only [List.cons_append, List.forall_mem_cons, List.forall_mem_append] at hbelow ⊢
    exact ⟨hp, hls, hbrace, hbelow.2⟩
  rw [ofSource, ofSource, Finding.ofSource, Finding.ofSource, hgrown, hlines, List.append_assoc,
    Finding.readAll_append, Finding.readAll_append [], Finding.readAll_eq_nil_iff.mpr hnew,
    Finding.readAll_eq_nil_iff.mpr hbelow]

end Accessors

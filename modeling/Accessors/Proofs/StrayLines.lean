import Accessors.Proofs.InertCode

/-!
# Members declared by comments

The description of a member may have several lines. A template that quotes it puts the frame of a
comment before the first one only; the others stand in the code as they are, and such a stray line
may declare a member. Nothing else in the code of a standard template does.
-/

namespace Accessors

open Text

theorem Accessor.lines_finish (a : Accessor) (t : Text) :
    lines (a.finish t) = (lines t).map a.finish := by
  conv_lhs => rw [← joinWith_lines t, a.finish_joinWith]
  refine lines_joinWith ?_ (by simp [lines_ne_nil])
  intro l hl
  obtain ⟨u, hu, rfl⟩ := List.mem_map.mp hl
  exact Accessor.newline_notMem_finish (newline_notMem_of_mem_lines hu)

theorem Accessor.finish_append_period (a : Accessor) (t : Text) :
    a.finish (t ++ ['.']) = a.finish t ++ ['.'] := by
  cases a with
  | getter => rfl
  | setter => exact Body.closeGaps_append (by simp) t

namespace Standard

def verb : Accessor → Text
  | .getter => "Gets"
  | .setter => "Sets"

/-- The opening line of a comment up to the description. -/
def openingText (tabs : Bool) (a : Accessor) : Text :=
  margin tabs ++ " * " ++ verb a ++ " the "

def openingRow (tabs : Bool) (a : Accessor) : List Piece :=
  Piece.plain (openingText tabs a) ++ Piece.fact .description ++ Piece.plain ['.']

/-- Terse templates do not quote the description, and others do so in the opening row only. -/
def quotesInOpening (s : Standard) (tabs : Bool) (a : Accessor) (rows : List (List Piece)) : Bool :=
  rows.contains (openingRow tabs a) == !s.isTerse &&
    rows.all fun row =>
      row == openingRow tabs a ||
        row.all fun p => p.key? != some Placeholder.description.key

theorem quotesInOpening_rows (s : Standard) (tabs : Bool) (a : Accessor) :
    s.quotesInOpening tabs a (Body.rows ((s.template.indented tabs).body a)) = true := by
  cases s <;> cases tabs <;> cases a <;> decide

end Standard

/-- The lines of a description after its first, which are written without a frame. -/
def Member.strayLines (m : Member) : List Text :=
  (lines m.description).tail

namespace Request

variable {s : Standard} {r : Request}

theorem read?_opening (r : Request) (tabs : Bool) (t : Text) :
    DeclarationLine.read? (r.accessor.finish (Standard.openingText tabs r.accessor ++ t)) =
      none := by
  apply DeclarationLine.read?_eq_none_of_isPlain
  apply Accessor.isPlain_finish
  cases tabs <;> rfl

/-- What holds of every opening line, and of a line with or without a period, holds of the row that
quotes a description if it holds of the stray lines. -/
theorem forall_mem_lines_openingRow_iff (r : Request) (tabs : Bool) {P : Text → Prop}
    (hopen : ∀ t, P (r.accessor.finish (Standard.openingText tabs r.accessor ++ t)))
    (hstop : ∀ l, P (l ++ ['.']) ↔ P l) :
    (∀ l ∈ lines (r.line (Standard.openingRow tabs r.accessor)), P l) ↔
      ∀ l ∈ r.member.strayLines, P (r.accessor.finish l) := by
  obtain ⟨q, qs, hqs⟩ := List.exists_cons_of_ne_nil (lines_ne_nil r.member.description)
  have hopening : lines (Standard.openingText tabs r.accessor) =
      [] ++ [Standard.openingText tabs r.accessor] := by
    cases tabs <;> cases r.accessor <;> decide
  have hquoted := lines_append hopening hqs
  have hrow : r.line (Standard.openingRow tabs r.accessor) = r.accessor.finish
      (Standard.openingText tabs r.accessor ++ r.member.description ++ ['.']) := by
    simp [line, Standard.openingRow, Member.value]
  obtain ⟨ps, p, hps⟩ :=
    exists_lines_eq_append (Standard.openingText tabs r.accessor ++ r.member.description)
  have hperiod : lines ['.'] = ['.'] :: [] := rfl
  rw [hrow, Accessor.lines_finish, lines_append hps hperiod, Member.strayLines, hqs]
  rw [hps] at hquoted
  have hall : (∀ l ∈ ps ++ [p], P (r.accessor.finish l)) ↔
      ∀ l ∈ qs, P (r.accessor.finish l) := by
    rw [hquoted]
    simp [hopen]
  rw [List.tail_cons, ← hall]
  simp [Accessor.finish_append_period, hstop, or_imp, forall_and]

/-- The row that quotes a description declares what its stray lines declare. -/
theorem declaresNothing_openingRow_iff (r : Request) (tabs : Bool) :
    (∀ l ∈ lines (r.line (Standard.openingRow tabs r.accessor)),
        DeclarationLine.read? l = none) ↔
      ∀ l ∈ r.member.strayLines, DeclarationLine.read? (r.accessor.finish l) = none :=
  r.forall_mem_lines_openingRow_iff tabs (r.read?_opening tabs) fun l => by
    rw [DeclarationLine.read?_append_period]

/-- The code of a request declares a member only in the stray lines of a description. -/
theorem Fits.declaresNothing_iff (h : r.Fits s) (hone : r.member.OneLine) (tabs : Bool) :
    (∀ l ∈ lines (r.text (s.template.indented tabs)), DeclarationLine.read? l = none) ↔
      s.isTerse = true ∨
        ∀ l ∈ r.member.strayLines, DeclarationLine.read? (r.accessor.finish l) = none := by
  have hquotes := s.quotesInOpening_rows tabs r.accessor
  have hread := fun row => @Fits.read?_line s r h tabs row
  rw [text_eq_joinWith]
  generalize hrows : Body.rows ((s.template.indented tabs).body r.accessor) = rows at hquotes hread
  simp only [Standard.quotesInOpening, Bool.and_eq_true, List.all_eq_true, Bool.or_eq_true,
    beq_iff_eq, bne_iff_ne] at hquotes
  obtain ⟨hopening, homits⟩ := hquotes
  have hne : rows ≠ [] := hrows ▸ List.splitOn_ne_nil _ _
  have hother : ∀ row ∈ rows, (∀ p ∈ row, p.key? ≠ some Placeholder.description.key) →
      ∀ l ∈ lines (r.line row), DeclarationLine.read? l = none := by
    intro row hrow hrow' l hl
    have hnewline : .char '\n' ∉ row := notMem_of_mem_splitOn (hrows ▸ hrow)
    have hline : '\n' ∉ r.line row :=
      Accessor.newline_notMem_finish (Member.newline_notMem_filledRow hone hnewline (.inr hrow'))
    rw [lines_eq_singleton hline, List.mem_singleton] at hl
    rw [hl]
    exact hread row hrow
  rw [lines_joinWith_eq_flatMap (by simpa using hne)]
  simp only [List.flatMap_map, List.forall_mem_flatMap]
  rw [← declaresNothing_openingRow_iff r tabs]
  constructor
  · intro hall
    cases hterse : s.isTerse with
    | true => exact .inl rfl
    | false =>
      rw [hterse] at hopening
      exact .inr (hall _ (List.contains_iff_mem.mp hopening))
  · intro hcases row hrow
    rcases homits row hrow with rfl | hrow'
    · rcases hcases with hterse | hstray
      · rw [hterse, List.contains_iff_mem.mpr hrow] at hopening
        cases hopening
      · exact hstray
    · exact hother row hrow hrow'

theorem getLast?_lines_text (s : Standard) (tabs : Bool) (r : Request) :
    (lines (r.text (s.template.indented tabs))).getLast? = some [] := by
  have hmethod := s.isMethod_rows tabs r.accessor
  simp only [Standard.isMethod, Bool.and_eq_true, beq_iff_eq] at hmethod
  obtain ⟨rows, hrows⟩ := List.getLast?_eq_some_iff.mp hmethod.1.1.2
  have hlast : lines (r.line []) = [[]] := by rw [r.line_nil]; rfl
  rw [text_eq_joinWith, lines_joinWith_eq_flatMap (by simp [hrows]), hrows]
  simp [hlast]

end Request

namespace Generator

theorem declaresNothing_outcome_iff {s : Standard} {tabs : Bool} {options : Options}
    {source : Text} {kind : Kind} {selection : Selection} :
    (∀ l ∈ lines ((s.generator tabs options).outcome source kind selection).code,
        DeclarationLine.read? l = none) ↔
      s.isTerse = true ∨
        ∀ r ∈ Batch.fresh source [] ((s.generator tabs options).requests source kind selection),
          ∀ l ∈ r.member.strayLines, DeclarationLine.read? (r.accessor.finish l) = none := by
  have hlast := fun r (_ : r ∈ Batch.fresh source []
    ((s.generator tabs options).requests source kind selection)) => r.getLast?_lines_text s tabs
  have hrequest : ∀ r ∈ Batch.fresh source []
      ((s.generator tabs options).requests source kind selection),
      ((∀ l ∈ lines (r.text (s.template.indented tabs)), DeclarationLine.read? l = none) ↔
        s.isTerse = true ∨
          ∀ l ∈ r.member.strayLines, DeclarationLine.read? (r.accessor.finish l) = none) := by
    intro r hr
    have hmem := (Batch.mem_fresh hr).1
    have hmember := (List.mem_filter.mp (mem_requests hmem)).1
    exact (fits_of_mem_requests hmem).declaresNothing_iff (oneLine_of_mem_members hmember) tabs
  refine (forall_mem_lines_flatMap (by rfl) hlast).trans ((forall₂_congr hrequest).trans ?_)
  cases s.isTerse <;> simp

end Generator

theorem Survey.ofSource_eq_empty_iff {source : Text} :
    ofSource source = ⟨[], []⟩ ↔ ∀ l ∈ lines source, DeclarationLine.read? l = none := by
  rw [← @Finding.readAll_eq_nil_iff [], ← Finding.ofSource, ofSource]
  cases hf : Finding.ofSource source with
  | nil => simp [ofFindings]
  | cons f fs => cases f <;> simp [ofFindings, Finding.declaration?, Finding.skipped?]

/-- Generated code declares no member, unless the template quotes descriptions and a line of one,
other than its first, reads as the declaration of a member. -/
theorem generated_code_declares_nothing_iff {tabs : Bool} {options : Options} {g : Generator}
    {source : Text} {kind : Kind} {selection : Selection} {out : Generated}
    (hg : Generator.resolve (Catalogue.standard tabs) options = .ok g)
    (hout : g.generate source kind selection = .ok out) :
    Survey.ofSource out.code = ⟨[], []⟩ ↔
      options.template = Standard.psr2.name ∨
        ∀ r ∈ Batch.fresh source [] (g.requests source kind selection),
          ∀ l ∈ r.member.strayLines, DeclarationLine.read? (r.accessor.finish l) = none := by
  obtain ⟨s, hname, rfl⟩ := Generator.resolve_standard_eq_ok_iff.mp hg
  have hvalid : (s.generator tabs options).template.validate = .ok () :=
    Template.validate_indented tabs s.validate_template
  rw [Generator.generate_eq_ok hvalid] at hout
  obtain rfl := Except.ok.inj hout
  rw [Survey.ofSource_eq_empty_iff, Generator.declaresNothing_outcome_iff, s.isTerse_iff, hname]

/-- A class with a member whose description goes on, on its second line, with `line`. -/
def describedClass (line : Text) : Text :=
  "class Box \x7b\n    /**\n     * The first line\n     * " ++ line ++
    "\n     */\n    private $foo;\n\x7d\n"

def camelGenerator : Generator :=
  Standard.camelCase.generator false { template := "CamelCase" }

theorem resolve_camelGenerator :
    Generator.resolve (Catalogue.standard false) { template := "CamelCase" } =
      .ok camelGenerator :=
  Generator.resolve_standard_eq_ok_iff.mpr ⟨.camelCase, rfl, rfl⟩

theorem describedClass_declares_nothing :
    ∃ out, camelGenerator.generate (describedClass "private is $foo") .both .all = .ok out ∧
      out.emitted = ["getFoo".toList, "_setFoo".toList] ∧
      Survey.ofSource out.code = ⟨[], []⟩ := by
  have hvalid : camelGenerator.template.validate = .ok () := Standard.camelCase.validate_template
  have hout := Generator.generate_eq_ok hvalid (describedClass "private is $foo") .both .all
  refine ⟨_, hout, by decide, ?_⟩
  exact (generated_code_declares_nothing_iff resolve_camelGenerator hout).mpr
    (.inr (by decide))

/-- The second line of this description is found again as a member. -/
theorem describedClass_declares_member :
    ∃ out, Generator.resolve (Catalogue.standard false) { template := "CamelCase" } =
        .ok camelGenerator ∧
      camelGenerator.generate (describedClass "private $x = 1") .getters .all = .ok out ∧
      (Survey.ofSource out.code).declarations.map Declaration.name = ["x".toList] := by
  have hvalid : camelGenerator.template.validate = .ok () := Standard.camelCase.validate_template
  refine ⟨_, resolve_camelGenerator,
    Generator.generate_eq_ok hvalid (describedClass "private $x = 1") .getters .all, ?_⟩
  decide

end Accessors

import Accessors.Generation.Session
import Accessors.Proofs.CatalogueLaws
import Accessors.Proofs.GrowingSources
import Accessors.Proofs.StandardCode

/-!
# Editing sessions generate nothing twice

An edit generates accessors for the current source and inserts them. Along a session of edits the
source keeps its place for new methods and declares everything that was written or found before,
so that no later edit writes any of it again.
-/

namespace Accessors

open Text

/-- A request over the standard templates, which may change from edit to edit. -/
structure Edit where
  tabs : Bool
  options : Options
  kind : Kind
  selection : Selection
  isStandard : ∃ s : Standard, s.name = options.template

namespace Edit

def session (e : Edit) (source : Text) : Session where
  source := source
  catalogue := Catalogue.standard e.tabs
  options := e.options

def apply (e : Edit) (source : Text) : Except TemplateError (Generated × Text) := do
  let g ← (e.session source).generate e.kind e.selection
  return (g, ((e.session source).insert g.code).source)

/-- Applies edits in turn; the results are in order, followed by the last source. -/
def run : List Edit → Text → Except TemplateError (List Generated × Text)
  | [], source => .ok ([], source)
  | e :: es, source => do
    let (g, source') ← e.apply source
    let (gs, final) ← run es source'
    return (g :: gs, final)

/-- What an edit does: it inserts the code, writes no method that was declared, and leaves every
method declared that it wrote or found. -/
structure Outcome (source : Text) (g : Generated) (source' : Text) : Prop where
  inserted : Insertion.insert? source g.code = some source'
  new : ∀ n ∈ g.emitted, Method.declares source n = false
  named : ∀ n ∈ g.emitted ++ g.existing, IsName n
  declared : ∀ n ∈ g.emitted ++ g.existing, Method.declares source' n = true

theorem outcome_generate {s : Standard} {tabs : Bool} {options : Options} {source source' : Text}
    {kind : Kind} {selection : Selection}
    (h : Insertion.insert? source
      ((s.generator tabs options).outcome source kind selection).code = some source') :
    Outcome source ((s.generator tabs options).outcome source kind selection) source' := by
  have hfits : ∀ r ∈ (s.generator tabs options).requests source kind selection, IsName r.method :=
    fun r hr => Request.isName_method (Generator.fits_of_mem_requests hr).name
  refine ⟨h, ?_, ?_, ?_⟩
  · intro n hn
    obtain ⟨r, hr, rfl⟩ := List.mem_map.mp hn
    exact (Batch.mem_fresh hr).2
  · intro n hn
    rcases List.mem_append.mp hn with hn | hn
    · obtain ⟨r, hr, rfl⟩ := List.mem_map.mp hn
      exact hfits r (Batch.mem_fresh hr).1
    · obtain ⟨r, hr, rfl⟩ := List.mem_map.mp (List.mem_filter.mp hn).1
      exact hfits r hr
  · intro n hn
    rcases List.mem_append.mp hn with hn | hn
    · obtain ⟨⟨before, after⟩, -, rfl⟩ := Option.map_eq_some_iff.mp h
      exact Generator.declares_of_mem_emitted hn before after
    · obtain ⟨hmem, hd⟩ := List.mem_filter.mp hn
      obtain ⟨r, hr, rfl⟩ := List.mem_map.mp hmem
      exact Method.declares_of_insert? (Method.bars_closingBrace (hfits r hr)) h hd

/-- An edit of a source that has a place for new methods succeeds. -/
theorem exists_apply_eq_ok (e : Edit) {source : Text} (h : (Insertion.offset? source).isSome) :
    ∃ g source', e.apply source = .ok (g, source') ∧ Outcome source g source' := by
  obtain ⟨s, hs⟩ := e.isStandard
  obtain ⟨before, after, hcut⟩ := Insertion.offset?_isSome_iff.mp h
  have hresolve : Generator.resolve (Catalogue.standard e.tabs) e.options =
      .ok (s.generator e.tabs e.options) :=
    Generator.resolve_standard_eq_ok_iff.mpr ⟨s, hs, rfl⟩
  have hgenerate : (e.session source).generate e.kind e.selection =
      .ok ((s.generator e.tabs e.options).outcome source e.kind e.selection) := by
    rw [Session.generate, Session.generator, session, hresolve]
    exact Generator.generate_eq_ok (Template.validate_indented e.tabs s.validate_template) _ _ _
  have hinsert := Insertion.insert?_of_cut? hcut
  refine ⟨(s.generator e.tabs e.options).outcome source e.kind e.selection, _, ?_,
    outcome_generate (hinsert _)⟩
  rw [apply, hgenerate]
  simp [bind, Except.bind, pure, Except.pure, Session.insert, session, hinsert]

theorem Outcome.offset?_isSome {source source' : Text} {g : Generated}
    (h : Outcome source g source') : (Insertion.offset? source').isSome := by
  obtain ⟨⟨before, after⟩, hcut, rfl⟩ := Option.map_eq_some_iff.mp h.inserted
  exact Insertion.offset?_isSome_iff.mpr ⟨_, _, Insertion.cut?_insert hcut g.code⟩

/-- A run succeeds, and what the source declares or an edit leaves declared is not written by the
edits that follow. -/
theorem exists_run_eq_ok (es : List Edit) {source : Text} (h : (Insertion.offset? source).isSome) :
    ∃ gs final, run es source = .ok (gs, final) ∧ gs.length = es.length ∧
      (Insertion.offset? final).isSome ∧
      (∀ n, IsName n → Method.declares source n = true →
        ∀ g ∈ gs, ∀ m ∈ g.emitted, m.map fold ≠ n.map fold) ∧
      gs.Pairwise fun earlier later =>
        ∀ m ∈ later.emitted, ∀ n ∈ earlier.emitted ++ earlier.existing,
          m.map fold ≠ n.map fold := by
  induction es generalizing source with
  | nil => exact ⟨[], source, rfl, rfl, h, by simp, .nil⟩
  | cons e es ih =>
    obtain ⟨g, source', happly, hstep⟩ := e.exists_apply_eq_ok h
    obtain ⟨gs, final, hrun, hlength, hfinal, hdeclared, hpairs⟩ := ih hstep.offset?_isSome
    refine ⟨g :: gs, final, ?_, by simp [hlength], hfinal, ?_, ?_⟩
    · rw [run, happly]
      simp [bind, Except.bind, hrun, pure, Except.pure]
    · intro n hn hd
      rw [List.forall_mem_cons]
      constructor
      · intro m hm heq
        have hmd := (Method.declares_congr heq).mpr hd
        rw [hstep.new m hm] at hmd
        cases hmd
      · exact hdeclared n hn
          (Method.declares_of_insert? (Method.bars_closingBrace hn) hstep.inserted hd)
    · refine List.pairwise_cons.mpr ⟨fun later hlater m hm n hn => ?_, hpairs⟩
      exact hdeclared n (hstep.named n hn) (hstep.declared n hn) later hlater m hm

end Edit

/-- No accessor is written twice in an editing session: up to letter case, no edit writes a method
that an earlier one wrote or found. -/
theorem sessions_write_nothing_twice (es : List Edit) {source : Text}
    (h : (Insertion.offset? source).isSome) :
    ∃ gs final, Edit.run es source = .ok (gs, final) ∧ gs.length = es.length ∧
      (Insertion.offset? final).isSome ∧
      gs.Pairwise fun earlier later =>
        ∀ m ∈ later.emitted, ∀ n ∈ earlier.emitted ++ earlier.existing,
          m.map fold ≠ n.map fold := by
  obtain ⟨gs, final, hrun, hlength, hfinal, -, hpairs⟩ := Edit.exists_run_eq_ok es h
  exact ⟨gs, final, hrun, hlength, hfinal, hpairs⟩

def smallClass : Text :=
  "class Box \x7b\n    private $foo;\n\x7d\n"

/-- The same members first under one template and then, with tabs, under another. -/
def smallEdits : List Edit :=
  [{ tabs := false, options := {}, kind := .getters, selection := .all,
     isStandard := ⟨.psr2, rfl⟩ },
   { tabs := true, options := { template := "CamelCase" }, kind := .both, selection := .named "foo",
     isStandard := ⟨.camelCase, rfl⟩ }]

theorem smallEdits_write_nothing_twice :
    (Edit.run smallEdits smallClass).map (·.1.map Generated.emitted) =
        .ok [["getFoo".toList], ["_setFoo".toList]] ∧
      ∃ gs final, Edit.run smallEdits smallClass = .ok (gs, final) ∧
        gs.length = smallEdits.length ∧ (Insertion.offset? final).isSome ∧
        gs.Pairwise fun earlier later =>
          ∀ m ∈ later.emitted, ∀ n ∈ earlier.emitted ++ earlier.existing,
            m.map fold ≠ n.map fold :=
  ⟨by decide +kernel, sessions_write_nothing_twice smallEdits (by decide +kernel)⟩

end Accessors

import Accessors.Proofs.EditingSessions
import Accessors.Proofs.InertCode

/-!
# Generation reaches a fixed point

Once the generated code is inserted, the source declares every requested method, and its survey is
the same as before. The same request then finds all methods in place and writes nothing.
-/

namespace Accessors

open Text

namespace Generator

variable {s : Standard} {tabs : Bool} {options : Options} {source source' : Text} {kind : Kind}
  {selection : Selection}

/-- Every requested method is declared once the code is inserted: the source declared it, or this
request or an earlier one for the same method had it written. -/
theorem declares_of_mem_requests {r : Request}
    (h : Insertion.insert? source
      ((s.generator tabs options).outcome source kind selection).code = some source')
    (hr : r ∈ (s.generator tabs options).requests source kind selection) :
    Method.declares source' r.method = true := by
  apply (Edit.outcome_generate h).declared
  rw [List.mem_append]
  rcases @Batch.mem_fresh_or source [] _ _ hr with hd | hseen | hfresh
  · exact .inr (List.mem_filter.mpr ⟨List.mem_map_of_mem hr, hd⟩)
  · cases hseen
  · exact .inl hfresh

theorem inert_outcome
    (h : s.isTerse = true ∨
      ∀ m ∈ (s.generator tabs options).selected source selection, '\n' ∉ m.description) :
    Inert ((s.generator tabs options).outcome source kind selection).code := by
  apply Inert.flatMap
  intro r hr
  have hmem := (Batch.mem_fresh hr).1
  have hselected := mem_requests hmem
  apply (fits_of_mem_requests hmem).inert_text
  · exact oneLine_of_mem_members (List.mem_filter.mp hselected).1
  · exact h.imp_right fun hall => hall _ hselected

theorem outcome_eq_of_declares {g : Generator}
    (hsurvey : Survey.ofSource source' = Survey.ofSource source)
    (hdeclared : ∀ r ∈ g.requests source kind selection, Method.declares source' r.method = true) :
    g.outcome source' kind selection =
      { code := []
        emitted := []
        existing := (g.requests source kind selection).map Request.method
        skipped := (Survey.ofSource source).skipped
        selected := (g.selected source selection).length } := by
  have hselected : g.selected source' selection = g.selected source selection := by
    rw [selected, selected, members, members, hsurvey]
  have hrequests : g.requests source' kind selection = g.requests source kind selection := by
    rw [requests, requests, hselected]
  have hexisting : ((g.requests source kind selection).map Request.method).filter
      (Method.declares source') = (g.requests source kind selection).map Request.method := by
    rw [List.filter_eq_self]
    intro n hn
    obtain ⟨r, hr, rfl⟩ := List.mem_map.mp hn
    exact hdeclared r hr
  rw [outcome, hrequests, Batch.fresh_eq_nil hdeclared, hexisting, hselected, hsurvey]
  rfl

end Generator

/-- Generation reaches a fixed point after one insertion. The code is inserted at byte `o`, below
all that the survey reports; then the survey is the same, and the same request writes nothing and
finds every requested method, repeats included. -/
theorem generation_reaches_fixed_point {tabs : Bool} {options : Options} {g : Generator}
    {source : Text} {o : Nat} {kind : Kind} {selection : Selection}
    (hg : Generator.resolve (Catalogue.standard tabs) options = .ok g)
    (ho : Insertion.offset? source = some o)
    (hreported : ∀ k ∈ (Survey.ofSource source).reported, endOfLine source k ≤ o)
    (hdescription : options.template = Standard.psr2.name ∨
      ∀ m ∈ g.selected source selection, '\n' ∉ m.description) :
    ∃ out before after, g.generate source kind selection = .ok out ∧
      cutAtByte? o source = some (before, after) ∧
      Survey.ofSource (before ++ out.code ++ after) = Survey.ofSource source ∧
      g.generate (before ++ out.code ++ after) kind selection = .ok
        { code := []
          emitted := []
          existing :=
            (Request.ofMembers kind options.setterFirst (g.selected source selection)).map
              Request.method
          skipped := out.skipped
          selected := out.selected } := by
  obtain ⟨s, hname, rfl⟩ := Generator.resolve_standard_eq_ok_iff.mp hg
  obtain ⟨⟨before, after⟩, hcut, rfl⟩ := Option.map_eq_some_iff.mp ho
  obtain ⟨rest, hafter, hsource, -, -⟩ := Insertion.cut?_eq_some_iff.mp hcut
  have hgenerate := @Generator.generate_eq_ok (s.generator tabs options)
    (Template.validate_indented tabs s.validate_template)
  have hterse : s.isTerse = true ∨
      ∀ m ∈ (s.generator tabs options).selected source selection, '\n' ∉ m.description := by
    refine hdescription.imp_left fun h => ?_
    rw [← hname] at h
    cases s <;> first | rfl | cases h
  have hinsert := Insertion.insert?_of_cut? hcut
    ((s.generator tabs options).outcome source kind selection).code
  have hinert : Inert ((s.generator tabs options).outcome source kind selection).code :=
    Generator.inert_outcome hterse
  have hsurvey := Survey.ofSource_insert hcut hreported hinert
  refine ⟨(s.generator tabs options).outcome source kind selection, before, after,
    hgenerate source kind selection, ?_, hsurvey, ?_⟩
  · rw [hsource, hafter]
    exact cutAtByte?_append before _
  · rw [hgenerate, Generator.outcome_eq_of_declares hsurvey fun r hr =>
      Generator.declares_of_mem_requests hinsert hr]
    rfl

/-- A class with a documented member that has its getter already. -/
def documentedClass : Text :=
  "class Box \x7b\n    /**\n     * The size.\n     * @var int\n     */\n    private $size;\n\n" ++
    "    public function get_size() \x7b\x7d\n\x7d\n"

def snakeGenerator : Generator :=
  Standard.snakeCaseFluent.generator true { template := "SnakeCaseFluent" }

/-- The class gains its setter, and then has both methods. -/
theorem documentedClass_reaches_fixed_point :
    Insertion.offset? documentedClass = some 115 ∧
      ∃ out before after, snakeGenerator.generate documentedClass .both .all = .ok out ∧
        out.code ≠ [] ∧ out.emitted = ["_set_size".toList] ∧ out.existing = ["get_size".toList] ∧
        cutAtByte? 115 documentedClass = some (before, after) ∧
        Survey.ofSource (before ++ out.code ++ after) = Survey.ofSource documentedClass ∧
        snakeGenerator.generate (before ++ out.code ++ after) .both .all = .ok
          { code := []
            emitted := []
            existing := ["get_size".toList, "_set_size".toList]
            skipped := []
            selected := 1 } := by
  have hg : Generator.resolve (Catalogue.standard true) { template := "SnakeCaseFluent" } =
      .ok snakeGenerator :=
    Generator.resolve_standard_eq_ok_iff.mpr ⟨.snakeCaseFluent, rfl, rfl⟩
  have ho : Insertion.offset? documentedClass = some 115 := by decide
  obtain ⟨out, before, after, hout, hcut, hsurvey, hagain⟩ :=
    @generation_reaches_fixed_point _ _ _ _ _ .both .all hg ho (by decide) (.inr (by decide))
  obtain ⟨-, rfl⟩ := Generator.generate_eq_ok_iff.mp hout
  exact ⟨ho, _, before, after, hout, by decide, by decide, by decide, hcut, hsurvey,
    hagain.trans (by decide)⟩

end Accessors

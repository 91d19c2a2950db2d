import Accessors.Proofs.BatchOutcome

/-!
# A batch accounts for every request

A batch lists each requested method as found or as written, and what it writes for a method is what
the first request for it yields alone. Both are said here without the batch: what is found and what
is missing are read off the list of the requested methods, and the code is put together from single
accessors.
-/

namespace Accessors

namespace Batch

variable {source : Text} {seen : List Text} {rs : List Request}

/-- The methods written are those requested and neither declared nor written before, each at its
first request. -/
theorem map_method_fresh (source : Text) (seen : List Text) (rs : List Request) :
    (fresh source seen rs).map Request.method =
      ((rs.map Request.method).filter fun n =>
        !(Method.declares source n || seen.contains n)).eraseDups := by
  induction rs generalizing seen with
  | nil => rfl
  | cons r rs ih =>
    by_cases hd : Method.declares source r.method = true
    · rw [fresh_cons_of_skipped (.inl hd), ih, List.map_cons,
        List.filter_cons_of_neg (by simp [hd])]
    · by_cases hm : r.method ∈ seen
      · rw [fresh_cons_of_skipped (.inr hm), ih, List.map_cons,
          List.filter_cons_of_neg (by simp [hm])]
      · -- What drops the later requests for the method drops its later mentions.
        rw [fresh_cons_of_new hd hm, List.map_cons, ih, List.map_cons,
          List.filter_cons_of_pos (by simp [hd, hm]), List.eraseDups_cons, List.filter_filter]
        congr 3
        funext n
        rw [List.contains_append, ← Bool.or_assoc, Bool.not_or, Bool.and_comm, List.contains_cons,
          List.contains_nil, Bool.or_false]

/-- What is written for a method is its first request. -/
theorem find?_of_mem_fresh {r : Request} (h : r ∈ fresh source seen rs) :
    rs.find? (fun q => q.method == r.method) = some r := by
  induction rs generalizing seen with
  | nil => cases h
  | cons q rs ih =>
    by_cases hq : Method.declares source q.method = true ∨ q.method ∈ seen
    · rw [fresh_cons_of_skipped hq] at h
      have hne : q.method ≠ r.method := by
        intro heq
        rw [heq, (mem_fresh h).2] at hq
        exact method_notMem_of_mem_fresh h (hq.resolve_left Bool.false_ne_true)
      rw [List.find?_cons_of_neg (by simpa using hne), ih h]
    · obtain ⟨hd, hm⟩ := not_or.mp hq
      rw [fresh_cons_of_new hd hm] at h
      rcases List.mem_cons.mp h with rfl | h
      · exact List.find?_cons_of_pos (by simp)
      · have hne : q.method ≠ r.method := by
          intro heq
          exact method_notMem_of_mem_fresh h (by simp [heq])
        rw [List.find?_cons_of_neg (by simpa using hne), ih h]

end Batch

namespace Generator

section

variable (g : Generator) (source : Text) (kind : Kind) (selection : Selection)

/-- The requested methods, in the order of the requests and with their repeats. -/
def requested : List Text :=
  (g.requests source kind selection).map Request.method

/-- The requested methods that the source does not declare, each at its first request. -/
def missing : List Text :=
  ((g.requested source kind selection).filter fun n => !Method.declares source n).eraseDups

/-- What the first request for a method yields if its accessor is generated alone. -/
def Yields (name : Text) (result : Except TemplateError Text) : Prop :=
  ∃ r, (g.requests source kind selection).find? (fun q => q.method == name) = some r ∧
    g.accessor source r.accessor r.member = result

/-- A result taken apart into the methods that it writes, each with the code that it yields
alone. -/
structure TakenApart (out : Generated) (parts : List (Text × Text)) : Prop where
  emitted_eq : out.emitted = parts.map Prod.fst
  code_eq : out.code = parts.flatMap Prod.snd
  yields : ∀ p ∈ parts, g.Yields source kind selection p.1 (.ok p.2)

end

variable {g : Generator} {source : Text} {kind : Kind} {selection : Selection}

theorem missing_eq : g.missing source kind selection =
    (Batch.fresh source [] (g.requests source kind selection)).map Request.method := by
  simp [Batch.map_method_fresh, missing, requested]

theorem mem_missing_iff {n : Text} : n ∈ g.missing source kind selection ↔
    n ∈ g.requested source kind selection ∧ Method.declares source n = false := by
  rw [missing, List.mem_eraseDups, List.mem_filter, Bool.not_eq_true']

/-- Alone, a request that is written yields what it is rendered to. -/
theorem yields_iff {r : Request}
    (h : r ∈ Batch.fresh source [] (g.requests source kind selection))
    {result : Except TemplateError Text} :
    g.Yields source kind selection r.method result ↔ r.render g.template = result := by
  have hcode : g.accessor source r.accessor r.member = r.render g.template := by
    rw [accessor, Request.code, if_neg (by simp [(Batch.mem_fresh h).2])]
  rw [Yields, Batch.find?_of_mem_fresh h]
  simp [hcode]

theorem takenApart_outcome (h : g.Renders source kind selection) :
    g.TakenApart source kind selection (g.outcome source kind selection)
      ((Batch.fresh source [] (g.requests source kind selection)).map fun r =>
        (r.method, r.text g.template)) where
  emitted_eq := by simp [outcome]
  code_eq := by simp [outcome, List.flatMap_map]
  yields := by
    intro p hp
    obtain ⟨r, hr, rfl⟩ := List.mem_map.mp hp
    exact (yields_iff hr).mpr (h r hr)

/-- A generator fails with the complaint of the first missing method that fails alone. -/
theorem generate_eq_error_iff_yields {e : TemplateError} :
    g.generate source kind selection = .error e ↔
      ∃ before name after, g.missing source kind selection = before ++ name :: after ∧
        (∀ n ∈ before, ∃ code, g.Yields source kind selection n (.ok code)) ∧
          g.Yields source kind selection name (.error e) := by
  rw [generate_eq_error_iff, missing_eq]
  constructor
  · rintro ⟨before, r, after, hfresh, hbefore, hr⟩
    refine ⟨before.map Request.method, r.method, after.map Request.method,
      by rw [hfresh, List.map_append, List.map_cons], fun n hn => ?_, ?_⟩
    · obtain ⟨q, hq, rfl⟩ := List.mem_map.mp hn
      exact ⟨_, (yields_iff (by simp [hfresh, hq])).mpr (hbefore q hq)⟩
    · exact (yields_iff (by simp [hfresh])).mpr hr
  · rintro ⟨names, name, names', hsplit, hbefore, hname⟩
    obtain ⟨before, rest, hfresh, rfl, hrest⟩ := List.map_eq_append_iff.mp hsplit
    obtain ⟨r, after, rfl, rfl, -⟩ := List.map_eq_cons_iff.mp hrest
    refine ⟨before, r, after, hfresh, fun q hq => ?_, ?_⟩
    · obtain ⟨code, hcode⟩ := hbefore q.method (List.mem_map_of_mem hq)
      have hrender := (yields_iff (by simp [hfresh, hq])).mp hcode
      rwa [← Request.text_of_render hrender]
    · exact (yields_iff (by simp [hfresh])).mp hname

end Generator

/-- A batch accounts for every request exactly once. What it finds and what it writes are the
requested methods, its code is that of the single accessors, and it fails exactly if one of these
does, with the complaint of the first. -/
theorem batch_accounts_for_every_request (g : Generator) (source : Text) (kind : Kind)
    (selection : Selection) :
    (∀ out, g.generate source kind selection = .ok out →
      out.existing = (g.requested source kind selection).filter (Method.declares source) ∧
      out.emitted = g.missing source kind selection ∧
      out.emitted.Nodup ∧
      out.emitted.Disjoint out.existing ∧
      (∀ n ∈ g.requested source kind selection, n ∈ out.emitted ∨ n ∈ out.existing) ∧
      ∃ parts, g.TakenApart source kind selection out parts) ∧
    ∀ e, g.generate source kind selection = .error e ↔
      ∃ before name after, g.missing source kind selection = before ++ name :: after ∧
        (∀ n ∈ before, ∃ code, g.Yields source kind selection n (.ok code)) ∧
          g.Yields source kind selection name (.error e) := by
  refine ⟨fun out hout => ?_, fun e => Generator.generate_eq_error_iff_yields⟩
  obtain ⟨hrenders, rfl⟩ := Generator.generate_eq_ok_iff.mp hout
  have hemitted : (g.outcome source kind selection).emitted = g.missing source kind selection :=
    Generator.missing_eq.symm
  have hexisting : (g.outcome source kind selection).existing =
      (g.requested source kind selection).filter (Method.declares source) := rfl
  refine ⟨hexisting, hemitted, Batch.nodup_fresh _ _ _, fun n hwritten hfound => ?_,
    fun n hn => ?_, _, Generator.takenApart_outcome hrenders⟩
  · have hmissing := (Generator.mem_missing_iff.mp (hemitted ▸ hwritten)).2
    rw [hexisting, List.mem_filter, hmissing] at hfound
    cases hfound.2
  · rw [hemitted, hexisting, Generator.mem_missing_iff, List.mem_filter]
    cases Method.declares source n with
    | true => exact .inr ⟨hn, rfl⟩
    | false => exact .inl ⟨hn, rfl⟩

/-- A class with a method of its own, and with members whose accessors have the same names. -/
def crowdedClass : Text :=
  "class Box \x7b\n    private $fooBar;\n    private $foo_bar;\n    private $size;\n" ++
    "    public $_size;\n    function GETFOOBAR() \x7b\x7d\n\x7d\n"

def getterGenerator : Generator where
  template :=
    { name := "Mine"
      style := .camel
      getter := "get \x7b\x7b name \x7d\x7d\n"
      setter := "set \x7b\x7bnope\x7d\x7d\n"
      marksPrivate := true }
  options := {}

theorem crowdedClass_accounted_for :
    ∃ out, getterGenerator.generate crowdedClass .getters .all = .ok out ∧
      out.existing = ["getFooBar".toList, "getFooBar".toList] ∧
      out.emitted = ["getSize".toList] ∧
      out.emitted.Disjoint out.existing ∧
      (∃ parts, getterGenerator.TakenApart crowdedClass .getters .all out parts) ∧
      ∃ before name after,
        getterGenerator.missing crowdedClass .both .all = before ++ name :: after ∧
          (∀ n ∈ before, ∃ code, getterGenerator.Yields crowdedClass .both .all n (.ok code)) ∧
            getterGenerator.Yields crowdedClass .both .all name
              (.error (.unknownPlaceholder "Mine" "nope")) := by
  have hout : getterGenerator.generate crowdedClass .getters .all =
      .ok (getterGenerator.outcome crowdedClass .getters .all) := by decide
  have herror : getterGenerator.generate crowdedClass .both .all =
      .error (.unknownPlaceholder "Mine" "nope") := by decide
  obtain ⟨hexisting, hemitted, -, hdisjoint, -, hparts⟩ :=
    (batch_accounts_for_every_request getterGenerator crowdedClass .getters .all).1 _ hout
  refine ⟨_, hout, hexisting.trans ?_, hemitted.trans ?_, hdisjoint, hparts, ?_⟩
  · decide
  · decide
  · exact ((batch_accounts_for_every_request getterGenerator crowdedClass .both .all).2 _).mp herror

end Accessors

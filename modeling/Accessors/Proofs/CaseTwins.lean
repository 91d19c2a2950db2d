import Accessors.Proofs.InsertionPoint
import Accessors.Proofs.MethodsOfCode
import Mathlib.Data.List.Pairwise

/-!
# Case twins in a batch

A source declares a method in any letter case, but a batch compares the names that it writes as
they are. So a batch writes no name twice, and yet it may write two that differ in letter case
only. Members that are served one by one, with the code of each inserted before the next, never
yield such twins; apart from them the two ways of generating agree.
-/

namespace Accessors

open Text

namespace Batch

/-- The requests that would be written if names were compared in any letter case. -/
def freshByCase (source : Text) (seen : List Text) : List Request → List Request
  | [] => []
  | r :: rs =>
    if Method.declares source r.method || seen.any (fun n => n.map fold == r.method.map fold) then
      freshByCase source seen rs
    else r :: freshByCase source (seen ++ [r.method]) rs

variable {source : Text} {seen : List Text} {rs : List Request}

theorem mem_freshByCase {r : Request} (h : r ∈ freshByCase source seen rs) :
    r ∈ rs ∧ ∀ n ∈ seen, n.map fold ≠ r.method.map fold := by
  induction rs generalizing seen with
  | nil => cases h
  | cons q rs ih =>
    rw [freshByCase] at h
    split at h
    · exact (ih h).imp_left (List.mem_cons_of_mem q)
    · next hq =>
      simp only [Bool.or_eq_true, List.any_eq_true, beq_iff_eq, not_or, not_exists, not_and] at hq
      rcases List.mem_cons.mp h with rfl | h
      · exact ⟨List.mem_cons_self, hq.2⟩
      · obtain ⟨hmem, hseen⟩ := ih h
        exact ⟨List.mem_cons_of_mem q hmem, fun n hn => hseen n (List.mem_append_left _ hn)⟩

theorem pairwise_freshByCase (source : Text) (seen : List Text) (rs : List Request) :
    ((freshByCase source seen rs).map Request.method).Pairwise
      fun m n => m.map fold ≠ n.map fold := by
  induction rs generalizing seen with
  | nil => exact .nil
  | cons q rs ih =>
    rw [freshByCase]
    split
    · exact ih seen
    · rw [List.map_cons, List.pairwise_cons]
      refine ⟨fun n hn => ?_, ih (seen ++ [q.method])⟩
      obtain ⟨r, hr, rfl⟩ := List.mem_map.mp hn
      exact (mem_freshByCase hr).2 q.method (by simp)

theorem freshByCase_append (source : Text) (seen : List Text) (rs rs' : List Request) :
    freshByCase source seen (rs ++ rs') = freshByCase source seen rs ++
      freshByCase source (seen ++ (freshByCase source seen rs).map Request.method) rs' := by
  induction rs generalizing seen with
  | nil => simp [freshByCase]
  | cons q rs ih =>
    rw [List.cons_append, freshByCase, freshByCase]
    split
    · exact ih seen
    · rw [ih, List.cons_append, List.map_cons, List.append_assoc seen]
      rfl

/-- Names that were written before may as well be declared by the source. -/
theorem freshByCase_of_declares {current : Text} {before : List Text}
    (h : ∀ r ∈ rs, Method.declares current r.method =
      (Method.declares source r.method || before.any fun n => n.map fold == r.method.map fold)) :
    freshByCase current seen rs = freshByCase source (before ++ seen) rs := by
  induction rs generalizing seen with
  | nil => rfl
  | cons q rs ih =>
    obtain ⟨hq, hrs⟩ := List.forall_mem_cons.mp h
    rw [freshByCase, freshByCase, hq, List.any_append, Bool.or_assoc, ih hrs, ih hrs,
      List.append_assoc]

/-- Without twins among the methods that the source does not declare, letter case makes no
difference. -/
theorem freshByCase_eq_fresh
    (hseen : ∀ n ∈ seen, ∀ r ∈ rs, Method.declares source r.method = false →
      n.map fold = r.method.map fold → n = r.method)
    (hrs : ∀ q ∈ rs, ∀ r ∈ rs, Method.declares source r.method = false →
      q.method.map fold = r.method.map fold → q.method = r.method) :
    freshByCase source seen rs = fresh source seen rs := by
  induction rs generalizing seen with
  | nil => rfl
  | cons q rs ih =>
    have hrest : ∀ q' ∈ rs, ∀ r ∈ rs, Method.declares source r.method = false →
        q'.method.map fold = r.method.map fold → q'.method = r.method :=
      fun q' hq' r hr => hrs q' (List.mem_cons_of_mem q hq') r (List.mem_cons_of_mem q hr)
    have hseen' : ∀ n ∈ seen, ∀ r ∈ rs, Method.declares source r.method = false →
        n.map fold = r.method.map fold → n = r.method :=
      fun n hn r hr => hseen n hn r (List.mem_cons_of_mem q hr)
    rw [freshByCase, fresh]
    cases hd : Method.declares source q.method with
    | true => exact ih hseen' hrest
    | false =>
      have hsame : (seen.any fun n => n.map fold == q.method.map fold) =
          seen.contains q.method := by
        rw [Bool.eq_iff_iff, List.any_eq_true, List.contains_iff_mem]
        constructor
        · rintro ⟨n, hn, heq⟩
          rwa [← hseen n hn q List.mem_cons_self hd (beq_iff_eq.mp heq)]
        · exact fun hmem => ⟨q.method, hmem, beq_self_eq_true _⟩
      rw [hsame, ih hseen' hrest, ih _ hrest]
      intro n hn r hr hr' heq
      rcases List.mem_append.mp hn with hn | hn
      · exact hseen' n hn r hr hr' heq
      · rw [List.mem_singleton.mp hn] at heq ⊢
        exact hrs q List.mem_cons_self r (List.mem_cons_of_mem q hr) hr' heq

/-- What is written is free of twins exactly if what is requested and not declared is. -/
theorem pairwise_fresh_iff (source : Text) (rs : List Request) :
    ((fresh source [] rs).map Request.method).Pairwise (fun m n => m.map fold ≠ n.map fold) ↔
      ∀ q ∈ rs, ∀ r ∈ rs, Method.declares source r.method = false →
        q.method.map fold = r.method.map fold → q.method = r.method := by
  constructor
  · intro hpairs q hq r hr hd heq
    have hwritten : ∀ r ∈ rs, Method.declares source r.method = false →
        r.method ∈ (fresh source [] rs).map Request.method := by
      intro r hr hd
      rcases @mem_fresh_or source [] rs r hr with hd' | hnil | hmem
      · rw [hd] at hd'
        cases hd'
      · cases hnil
      · exact hmem
    have hdq : Method.declares source q.method = false := by
      rw [Bool.eq_false_iff] at hd ⊢
      exact fun h => hd ((Method.declares_congr heq).mp h)
    have : Std.Symm fun m n : Text => m.map fold ≠ n.map fold := ⟨fun _ _ h => Ne.symm h⟩
    by_contra hne
    exact hpairs.forall (hwritten q hq hdq) (hwritten r hr hd) hne heq
  · intro htwins
    refine (nodup_fresh source [] rs).imp_of_mem fun {m n} hm hn hne heq => hne ?_
    obtain ⟨q, hq, rfl⟩ := List.mem_map.mp hm
    obtain ⟨r, hr, rfl⟩ := List.mem_map.mp hn
    exact htwins q (mem_fresh hq).1 r (mem_fresh hr).1 (mem_fresh hr).2 heq

end Batch

/-- The accessors of one member differ in more than letter case. -/
theorem Request.method_eq_of_mem_ofMembers {kind : Kind} {setterFirst : Bool} {m : Member}
    {q r : Request} (hq : q ∈ ofMembers kind setterFirst [m])
    (hr : r ∈ ofMembers kind setterFirst [m]) (h : q.method.map fold = r.method.map fold) :
    q.method = r.method := by
  have hqm := List.mem_singleton.mp (mem_ofMembers hq)
  have hrm := List.mem_singleton.mp (mem_ofMembers hr)
  rw [method, method, accessor_eq_of_method h, hqm, hrm]

/-- The methods written if members are served one by one and the code of each is inserted before
the next is served. -/
def Generator.oneByOne (g : Generator) (kind : Kind) : Text → List Member → List Text
  | _, [] => []
  | source, m :: ms =>
    let b := (g.batch source kind [m]).1
    b.emitted ++ oneByOne g kind ((Insertion.insert? source b.code).getD source) ms

/-- A source that has grown by the code of some methods: it keeps a place for new ones, and it
declares those methods and what it declared before. -/
structure Grown (source : Text) (seen : List Text) (current : Text) : Prop where
  place : (Insertion.offset? current).isSome
  declares : ∀ n, IsName n → Method.declares current n =
    (Method.declares source n || seen.any fun m => m.map fold == n.map fold)

theorem Grown.refl {source : Text} (h : (Insertion.offset? source).isSome) :
    Grown source [] source :=
  ⟨h, fun n _ => by simp⟩

section

variable {s : Standard} {tabs : Bool} {options : Options} {source current n : Text}
  {seen : List Text} {rs : List Request}

/-- A member of the source whose description a template can quote without adding lines. -/
def Standard.Serves (s : Standard) (tabs : Bool) (options : Options) (source : Text)
    (m : Member) : Prop :=
  m ∈ (s.generator tabs options).members source ∧ (s.isTerse = true ∨ '\n' ∉ m.description)

theorem of_declares_flatMap (h : ∀ r ∈ rs, s.Serves tabs options source r.member) (hn : IsName n)
    (a : Text)
    (hd : Method.declares (a ++ rs.flatMap (Request.text (s.template.indented tabs))) n = true) :
    Method.declares a n = true ∨ Method.declares source n = true ∨
      ∃ r ∈ rs, r.method.map fold = n.map fold := by
  induction rs generalizing a with
  | nil => exact .inl (by simpa using hd)
  | cons q rs ih =>
    obtain ⟨⟨hmember, hdesc⟩, hrs⟩ := List.forall_mem_cons.mp h
    rw [List.flatMap_cons, ← List.append_assoc] at hd
    rcases ih hrs _ hd with hfirst | hsource | ⟨r, hr, heq⟩
    · have hfits : q.Fits s := Generator.fits_of_mem_members hmember
      rcases hfits.of_declares_text hmember hdesc hn a hfirst with ha | hsource | heq
      · exact .inl ha
      · exact .inr (.inl hsource)
      · exact .inr (.inr ⟨q, List.mem_cons_self, heq⟩)
    · exact .inr (.inl hsource)
    · exact .inr (.inr ⟨r, List.mem_cons_of_mem q hr, heq⟩)

/-- The code of requests makes a grown source grow by their methods. -/
theorem Grown.exists_insert (hgrown : Grown source seen current)
    (h : ∀ r ∈ rs, s.Serves tabs options source r.member) :
    ∃ current', Insertion.insert? current
        (rs.flatMap (Request.text (s.template.indented tabs))) = some current' ∧
      Grown source (seen ++ rs.map Request.method) current' := by
  obtain ⟨before, after, hcut⟩ := Insertion.offset?_isSome_iff.mp hgrown.place
  have hplace := Insertion.cut?_insert hcut
    (rs.flatMap (Request.text (s.template.indented tabs)))
  refine ⟨_, Insertion.insert?_of_cut? hcut _, Insertion.offset?_isSome_iff.mpr ⟨_, _, hplace⟩, ?_⟩
  obtain ⟨rest, rfl, rfl, -, -⟩ := Insertion.cut?_eq_some_iff.mp hcut
  intro n hn
  have hcurrent := hgrown.declares n hn
  rw [List.any_append, ← Bool.or_assoc, ← hcurrent, Bool.eq_iff_iff, Bool.or_eq_true,
    List.any_map, List.any_eq_true]
  constructor
  · intro hd
    rcases Method.declares_cut hn (by decide) hd with hcode | hrest
    · rcases of_declares_flatMap h hn before hcode with hbefore | hsource | ⟨r, hr, heq⟩
      · have hstands : Method.StandsIn before (before ++ '\x7d' :: rest) :=
          ⟨[], '\x7d' :: rest, by simp, Method.endsWord_nil⟩
        exact .inl (hstands.declares hbefore)
      · rw [hcurrent, hsource]
        exact .inl rfl
      · exact .inr ⟨r, hr, beq_iff_eq.mpr heq⟩
    · have hstands : Method.StandsIn rest (before ++ '\x7d' :: rest) :=
        ⟨before ++ ['\x7d'], [], by simp, Method.endsWord_concat (by decide) before⟩
      exact .inl (hstands.declares hrest)
  · rintro (hd | ⟨r, hr, heq⟩)
    · exact Method.declares_insert _ (Method.bars_closingBrace hn) hd
    · have hfits : r.Fits s := Generator.fits_of_mem_members (h r hr).1
      exact (Method.declares_congr (beq_iff_eq.mp heq)).mp
        (Request.declares_flatMap hr hfits tabs before _)

variable {kind : Kind} {m : Member} {ms : List Member}

/-- The batch for one member of a grown source writes what is fresh in any letter case. -/
theorem Grown.exists_batch (hgrown : Grown source seen current)
    (h : s.Serves tabs options source m) :
    ∃ b, ((s.generator tabs options).batch current kind [m]).1 = b ∧
      b.code = (Batch.freshByCase source seen
        (Request.ofMembers kind options.setterFirst [m])).flatMap
          (Request.text (s.template.indented tabs)) ∧
      b.emitted = (Batch.freshByCase source seen
        (Request.ofMembers kind options.setterFirst [m])).map Request.method := by
  have hname : ∀ r ∈ Request.ofMembers kind options.setterFirst [m], IsName r.method := by
    intro r hr
    have hmember := List.mem_singleton.mp (Request.mem_ofMembers hr)
    exact Request.isName_method (Generator.isName_of_mem_members (hmember ▸ h.1))
  have hfresh : Batch.fresh current [] (Request.ofMembers kind options.setterFirst [m]) =
      Batch.freshByCase source seen (Request.ofMembers kind options.setterFirst [m]) := by
    rw [← Batch.freshByCase_eq_fresh (by simp)
        fun q hq r hr _ => Request.method_eq_of_mem_ofMembers hq hr,
      Batch.freshByCase_of_declares fun r hr => hgrown.declares r.method (hname r hr),
      List.append_nil]
  have hvalid : (s.generator tabs options).template.validate = .ok () :=
    Template.validate_indented tabs s.validate_template
  have hrender : ∀ r ∈ Request.ofMembers kind options.setterFirst [m],
      r.render (s.template.indented tabs) = .ok (r.text (s.template.indented tabs)) :=
    fun r _ => r.render_eq_ok hvalid
  obtain ⟨b, hb, hcode, hemitted, -⟩ := Batch.run_eq_of_render hrender current {}
  refine ⟨b, congrArg Prod.fst hb, ?_, ?_⟩
  · rw [← hfresh]
    exact hcode.trans (List.nil_append _)
  · rw [← hfresh]
    exact hemitted.trans (List.nil_append _)

/-- One by one, what is fresh in any letter case is written. -/
theorem Grown.oneByOne_eq (hgrown : Grown source seen current)
    (h : ∀ m ∈ ms, s.Serves tabs options source m) :
    (s.generator tabs options).oneByOne kind current ms =
      (Batch.freshByCase source seen (Request.ofMembers kind options.setterFirst ms)).map
        Request.method := by
  induction ms generalizing seen current with
  | nil => rfl
  | cons m ms ih =>
    obtain ⟨hm, hms⟩ := List.forall_mem_cons.mp h
    obtain ⟨b, hb, hcode, hemitted⟩ := hgrown.exists_batch hm
    have hserves : ∀ r ∈ Batch.freshByCase source seen
        (Request.ofMembers kind options.setterFirst [m]),
        s.Serves tabs options source r.member := by
      intro r hr
      have hmember := Request.mem_ofMembers (Batch.mem_freshByCase hr).1
      rwa [List.mem_singleton.mp hmember]
    obtain ⟨current', hinsert, hgrown'⟩ := hgrown.exists_insert hserves
    have hsplit : Request.ofMembers kind options.setterFirst (m :: ms) =
        Request.ofMembers kind options.setterFirst [m] ++
          Request.ofMembers kind options.setterFirst ms := by
      simp [Request.ofMembers]
    rw [Generator.oneByOne, hsplit, Batch.freshByCase_append, List.map_append, hb, hcode, hinsert,
      Option.getD_some, ih hgrown' hms, hemitted]

end

/-- A batch writes no name twice. It writes two names that differ in letter case only exactly if
such twins are requested and the source does not declare them, and exactly then it disagrees with
serving its members one by one. -/
theorem batch_writes_only_case_twins {g : Generator} {source : Text} {kind : Kind}
    {selection : Selection} {out : Generated}
    (hout : g.generate source kind selection = .ok out) :
    out.emitted.Nodup ∧
      (out.emitted.Pairwise (fun m n => m.map fold ≠ n.map fold) ↔
        ∀ q ∈ g.requests source kind selection, ∀ r ∈ g.requests source kind selection,
          Method.declares source r.method = false →
            q.method.map fold = r.method.map fold → q.method = r.method) ∧
      ∀ tabs options, Generator.resolve (Catalogue.standard tabs) options = .ok g →
        (Insertion.offset? source).isSome →
        (options.template = Standard.psr2.name ∨
          ∀ m ∈ g.selected source selection, '\n' ∉ m.description) →
        (g.oneByOne kind source (g.selected source selection) = out.emitted ↔
          out.emitted.Pairwise fun m n => m.map fold ≠ n.map fold) := by
  rw [Generator.emitted_of_generate hout]
  refine ⟨Batch.nodup_fresh _ _ _, Batch.pairwise_fresh_iff _ _, ?_⟩
  intro tabs options hg hplace hdesc
  obtain ⟨s, hname, rfl⟩ := Generator.resolve_standard_eq_ok_iff.mp hg
  have hserves : ∀ m ∈ (s.generator tabs options).selected source selection,
      s.Serves tabs options source m := by
    intro m hm
    refine ⟨(List.mem_filter.mp hm).1, ?_⟩
    rcases hdesc with hpsr2 | hlines
    · exact .inl (s.isTerse_iff.mpr (hname.trans hpsr2))
    · exact .inr (hlines m hm)
  rw [(Grown.refl hplace).oneByOne_eq hserves]
  constructor
  · intro heq
    rw [← heq]
    exact Batch.pairwise_freshByCase _ _ _
  · intro hpairs
    rw [← Batch.freshByCase_eq_fresh (by simp) ((Batch.pairwise_fresh_iff _ _).mp hpairs)]
    rfl

def pairClass (first second : Text) : Text :=
  "class Box \x7b\n    private $" ++ first ++ ";\n    private $" ++ second ++ ";\n\x7d\n"

def plainGenerator : Generator :=
  Standard.psr2.generator false {}

/-- Members whose accessors have the same names are served alike in both ways. -/
theorem pairClass_served_alike :
    ∃ out, plainGenerator.generate (pairClass "fooBar" "foo_bar") .both .all = .ok out ∧
      out.emitted = ["getFooBar".toList, "setFooBar".toList] ∧
      plainGenerator.oneByOne .both (pairClass "fooBar" "foo_bar")
        (plainGenerator.selected (pairClass "fooBar" "foo_bar") .all) = out.emitted := by
  have hvalid : plainGenerator.template.validate = .ok () := Standard.psr2.validate_template
  have hg : Generator.resolve (Catalogue.standard false) {} = .ok plainGenerator :=
    Generator.resolve_standard_eq_ok_iff.mpr ⟨.psr2, rfl, rfl⟩
  have hout := Generator.generate_eq_ok hvalid (pairClass "fooBar" "foo_bar") .both .all
  have hemitted : (plainGenerator.outcome (pairClass "fooBar" "foo_bar") .both .all).emitted =
      ["getFooBar".toList, "setFooBar".toList] := by decide
  refine ⟨_, hout, hemitted, ?_⟩
  refine ((batch_writes_only_case_twins hout).2.2 false {} hg (by decide) (.inl rfl)).mpr ?_
  rw [hemitted]
  decide

/-- A batch writes the accessors of these members although they differ in letter case only. -/
theorem pairClass_written_as_twins :
    ∃ out, plainGenerator.generate (pairClass "fooBar" "foobar") .getters .all = .ok out ∧
      out.emitted = ["getFooBar".toList, "getFoobar".toList] ∧
      "getFooBar".toList.map fold = "getFoobar".toList.map fold ∧
      plainGenerator.oneByOne .getters (pairClass "fooBar" "foobar")
        (plainGenerator.selected (pairClass "fooBar" "foobar") .all) = ["getFooBar".toList] := by
  have hvalid : plainGenerator.template.validate = .ok () := Standard.psr2.validate_template
  refine ⟨_, Generator.generate_eq_ok hvalid (pairClass "fooBar" "foobar") .getters .all, ?_⟩
  decide

end Accessors

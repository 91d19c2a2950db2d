import Accessors.Proofs.BatchAccount
import Accessors.Proofs.NameCharacters

/-!
# Pairs of accessors

A batch of pairs keeps one list of the methods that it has written, for getters and setters alike,
and stops at the first failure of either. Since no getter is named like a setter, neither kind gets
into the way of the other: the batch writes what a batch of getters and a batch of setters write,
in whatever order the two stand in a pair.
-/

namespace Accessors

open Text

/-- A list made of two others that share nothing: without the one it is the other. -/
structure Interleaves {α : Type} [BEq α] (l left right : List α) : Prop where
  left_eq : (l.filter fun x => !right.contains x) = left
  right_eq : (l.filter fun x => !left.contains x) = right
  disjoint : left.Disjoint right

/-- Two lists of entries that belong to members, up to two for each and in the order of the members.
The entries of a member stand in the one list in reverse of their order in the other. -/
inductive SwappedWithin {α : Type} (belongs : Member → α → Prop) :
    List Member → List α → List α → Prop
  | nil : SwappedWithin belongs [] [] []
  | cons {m : Member} {ms : List Member} {pair l l' : List α} (hlength : pair.length ≤ 2)
      (hpair : ∀ x ∈ pair, belongs m x) (h : SwappedWithin belongs ms l l') :
      SwappedWithin belongs (m :: ms) (pair ++ l) (pair.reverse ++ l')

namespace SwappedWithin

variable {α β : Type} {belongs : Member → α → Prop} {ms : List Member} {l l' : List α}

theorem perm (h : SwappedWithin belongs ms l l') : l.Perm l' := by
  induction h with
  | nil => exact .nil
  | @cons m ms pair l l' hlength hpair h ih => exact pair.reverse_perm.symm.append ih

theorem map {belongs' : Member → β → Prop} {f : α → β}
    (hf : ∀ m x, belongs m x → belongs' m (f x)) (h : SwappedWithin belongs ms l l') :
    SwappedWithin belongs' ms (l.map f) (l'.map f) := by
  induction h with
  | nil => exact .nil
  | @cons m ms pair l l' hlength hpair h ih =>
    rw [List.map_append, List.map_append, List.map_reverse]
    refine .cons (by rwa [List.length_map]) (fun y hy => ?_) ih
    obtain ⟨x, hx, rfl⟩ := List.mem_map.mp hy
    exact hf m x (hpair x hx)

end SwappedWithin

def Accessor.only : Accessor → Kind
  | getter => .getters
  | setter => .setters

namespace Request

variable {a : Accessor} {β : Type} {f : Request → β} {rs : List Request} {r : Request}

theorem filter_ofMembers (a : Accessor) (first first' : Bool) (ms : List Member) :
    (ofMembers .both first ms).filter (fun r => r.accessor == a) = ofMembers a.only first' ms := by
  rw [ofMembers, List.filter_flatMap, ofMembers]
  congr 1
  funext m
  cases a <;> cases first <;> rfl

theorem contains_map_filter [BEq β] [LawfulBEq β]
    (hf : ∀ q r, f q = f r → q.accessor = r.accessor) (hr : r ∈ rs) :
    ((rs.filter fun q => q.accessor == a).map f).contains (f r) = (r.accessor == a) := by
  rw [Bool.eq_iff_iff, List.contains_iff_mem, List.mem_map, beq_iff_eq]
  constructor
  · rintro ⟨q, hq, heq⟩
    rw [← hf q r heq]
    exact beq_iff_eq.mp (List.mem_filter.mp hq).2
  · intro h
    exact ⟨r, List.mem_filter.mpr ⟨hr, beq_iff_eq.mpr h⟩, rfl⟩

theorem filter_map_notContains [BEq β] [LawfulBEq β] {a b : Accessor} (hab : a ≠ b)
    (hf : ∀ q r, f q = f r → q.accessor = r.accessor) (rs : List Request) :
    ((rs.map f).filter fun x => !((rs.filter fun r => r.accessor == b).map f).contains x) =
      (rs.filter fun r => r.accessor == a).map f := by
  rw [List.filter_map]
  congr 1
  apply List.filter_congr
  intro r hr
  rw [Function.comp_apply, contains_map_filter hf hr]
  cases a <;> cases b <;> cases r.accessor <;> simp_all

/-- What tells getters from setters makes a list of requests an interleaving of both. -/
theorem interleaves_map [BEq β] [LawfulBEq β]
    (hf : ∀ q r, f q = f r → q.accessor = r.accessor) (rs : List Request) :
    Interleaves (rs.map f) ((rs.filter fun r => r.accessor == .getter).map f)
      ((rs.filter fun r => r.accessor == .setter).map f) := by
  refine ⟨filter_map_notContains (by decide) hf rs, filter_map_notContains (by decide) hf rs,
    fun x hgetter hsetter => ?_⟩
  obtain ⟨q, hq, rfl⟩ := List.mem_map.mp hgetter
  obtain ⟨r, hr, heq⟩ := List.mem_map.mp hsetter
  have haccessor := hf r q heq
  rw [beq_iff_eq.mp (List.mem_filter.mp hq).2, beq_iff_eq.mp (List.mem_filter.mp hr).2]
    at haccessor
  cases haccessor

theorem accessor_eq_of_method_eq (q r : Request) (h : q.method = r.method) :
    q.accessor = r.accessor :=
  accessor_eq_of_method (congrArg (List.map fold) h)

theorem method_eq_or (r : Request) :
    r.method = r.member.getterName ∨ r.method = r.member.setterName := by
  rw [method]
  cases r.accessor with
  | getter => exact .inl rfl
  | setter => exact .inr rfl

end Request

namespace Batch

variable {source : Text} {seen seen' : List Text} {rs : List Request}

/-- Requests that share no method with the others are written as if the others were not there. -/
theorem filter_fresh {p : Request → Bool}
    (hp : ∀ q ∈ rs, ∀ r ∈ rs, q.method = r.method → p q = p r)
    (hseen : ∀ r ∈ rs, p r = true → (r.method ∈ seen ↔ r.method ∈ seen')) :
    (fresh source seen rs).filter p = fresh source seen' (rs.filter p) := by
  induction rs generalizing seen seen' with
  | nil => rfl
  | cons q rs ih =>
    obtain ⟨hfirst, hrest⟩ := List.forall_mem_cons.mp hp
    have hp' : ∀ q ∈ rs, ∀ r ∈ rs, q.method = r.method → p q = p r :=
      fun q' hq' r hr => hrest q' hq' r (List.mem_cons_of_mem q hr)
    obtain ⟨hq, hseen'⟩ := List.forall_mem_cons.mp hseen
    by_cases hpq : p q = true
    · rw [List.filter_cons_of_pos hpq]
      by_cases hskip : Method.declares source q.method = true ∨ q.method ∈ seen
      · have hskip' : Method.declares source q.method = true ∨ q.method ∈ seen' := by
          rwa [← hq hpq]
        rw [fresh_cons_of_skipped hskip, fresh_cons_of_skipped hskip', ih hp' hseen']
      · obtain ⟨hd, hm⟩ := not_or.mp hskip
        rw [fresh_cons_of_new hd hm, fresh_cons_of_new hd fun hm' => hm ((hq hpq).mpr hm'),
          List.filter_cons_of_pos hpq]
        congr 1
        refine ih hp' fun r hr hpr => ?_
        rw [List.mem_append, List.mem_append, hseen' r hr hpr]
    · rw [List.filter_cons_of_neg hpq]
      by_cases hskip : Method.declares source q.method = true ∨ q.method ∈ seen
      · rw [fresh_cons_of_skipped hskip, ih hp' hseen']
      · obtain ⟨hd, hm⟩ := not_or.mp hskip
        rw [fresh_cons_of_new hd hm, List.filter_cons_of_neg hpq]
        refine ih hp' fun r hr hpr => ?_
        -- The method of `q` is none of those that count here.
        have hne : r.method ≠ q.method := by
          intro heq
          rw [hfirst r (List.mem_cons_of_mem q hr) heq.symm, hpr] at hpq
          exact hpq rfl
        simp [hseen' r hr hpr, hne]

/-- Requests for different methods are written as far as nothing stands against each. -/
theorem fresh_eq_filter (h : (rs.map Request.method).Nodup) :
    fresh source seen rs = rs.filter fun r =>
      !(Method.declares source r.method || seen.contains r.method) := by
  induction rs generalizing seen with
  | nil => rfl
  | cons q rs ih =>
    obtain ⟨hq, hrs⟩ := List.nodup_cons.mp h
    by_cases hskip : Method.declares source q.method = true ∨ q.method ∈ seen
    · rw [fresh_cons_of_skipped hskip, ih hrs, List.filter_cons_of_neg]
      rcases hskip with hd | hm
      · simp [hd]
      · simp [hm]
    · obtain ⟨hd, hm⟩ := not_or.mp hskip
      rw [fresh_cons_of_new hd hm, ih hrs, List.filter_cons_of_pos (by simp [hd, hm])]
      congr 1
      apply List.filter_congr
      intro r hr
      have hne : r.method ≠ q.method := by
        intro heq
        exact hq (heq ▸ List.mem_map_of_mem hr)
      simp [hne]

theorem fresh_append (source : Text) (seen : List Text) (rs rs' : List Request) :
    fresh source seen (rs ++ rs') = fresh source seen rs ++
      fresh source (seen ++ (fresh source seen rs).map Request.method) rs' := by
  induction rs generalizing seen with
  | nil => simp [fresh]
  | cons q rs ih =>
    rw [List.cons_append, fresh, fresh]
    split
    · exact ih seen
    · rw [ih, List.cons_append, List.map_cons, List.append_assoc seen]
      rfl

end Batch

namespace Request

def pair (first : Bool) (m : Member) : List Request :=
  (Kind.both.accessors first).map fun a => ⟨a, m⟩

theorem ofMembers_both_cons (first : Bool) (m : Member) (ms : List Member) :
    ofMembers .both first (m :: ms) = pair first m ++ ofMembers .both first ms :=
  List.flatMap_cons

theorem pair_not (first : Bool) (m : Member) : pair (!first) m = (pair first m).reverse := by
  cases first <;> rfl

theorem length_pair (first : Bool) (m : Member) : (pair first m).length = 2 := by
  cases first <;> rfl

theorem member_of_mem_pair {first : Bool} {m : Member} {r : Request} (h : r ∈ pair first m) :
    r.member = m := by
  obtain ⟨a, -, rfl⟩ := List.mem_map.mp h
  rfl

/-- The requests for one member ask for different methods. -/
theorem nodup_map_method (kind : Kind) (first : Bool) (m : Member) :
    (((kind.accessors first).map fun a => (⟨a, m⟩ : Request)).map method).Nodup := by
  have haccessors : (kind.accessors first).Nodup := by
    cases kind <;> cases first <;> decide
  rw [List.map_map]
  refine List.Pairwise.map _ (fun a b hne h => hne ?_) haccessors
  exact accessor_eq_of_method_eq ⟨a, m⟩ ⟨b, m⟩ h

theorem nodup_map_method_pair (first : Bool) (m : Member) :
    ((pair first m).map method).Nodup :=
  nodup_map_method .both first m

/-- The requests that pass a test, with pairs in either order. -/
theorem swappedWithin_filter (p : Request → Bool) (first : Bool) (ms : List Member) :
    SwappedWithin (fun m r => r.member = m) ms ((ofMembers .both first ms).filter p)
      ((ofMembers .both (!first) ms).filter p) := by
  induction ms with
  | nil => exact .nil
  | cons m ms ih =>
    rw [ofMembers_both_cons, ofMembers_both_cons, List.filter_append, List.filter_append, pair_not,
      List.filter_reverse]
    refine .cons ?_ (fun r hr => member_of_mem_pair (List.mem_filter.mp hr).1) ih
    exact (List.length_filter_le p _).trans_eq (length_pair first m)

end Request

/-- What is written, with pairs in either order: a member that comes first for a method with the one
order does so with the other. -/
theorem Batch.swappedWithin_fresh (source : Text) (first : Bool) (ms : List Member)
    {seen seen' : List Text} (hseen : ∀ n, n ∈ seen ↔ n ∈ seen') :
    SwappedWithin (fun m r => r.member = m) ms
      (fresh source seen (Request.ofMembers .both first ms))
      (fresh source seen' (Request.ofMembers .both (!first) ms)) := by
  induction ms generalizing seen seen' with
  | nil => exact .nil
  | cons m ms ih =>
    have hpair : fresh source seen' (Request.pair (!first) m) =
        (fresh source seen (Request.pair first m)).reverse := by
      rw [fresh_eq_filter (Request.nodup_map_method_pair _ m),
        fresh_eq_filter (Request.nodup_map_method_pair _ m), Request.pair_not, List.filter_reverse]
      congr 2
      funext r
      simp [hseen]
    have hlength : (fresh source seen (Request.pair first m)).length ≤ 2 := by
      rw [fresh_eq_filter (Request.nodup_map_method_pair _ m)]
      exact (List.length_filter_le _ _).trans_eq (Request.length_pair first m)
    rw [Request.ofMembers_both_cons, Request.ofMembers_both_cons, fresh_append, fresh_append, hpair]
    refine .cons hlength (fun r hr => Request.member_of_mem_pair (mem_fresh hr).1) (ih ?_)
    intro n
    simp [hseen]

namespace Generator

/-- The generator with the two accessors of a pair in the other order. -/
def flipped (g : Generator) : Generator :=
  { g with options := { g.options with setterFirst := !g.options.setterFirst } }

section

variable (g : Generator) (source : Text) (selection : Selection)

/-- How a result for pairs is made of a result for getters and one for setters: what is written and
what is found are interleaved, and each method has the same code. -/
structure Combines (out getters setters : Generated) : Prop where
  emitted : Interleaves out.emitted getters.emitted setters.emitted
  existing : Interleaves out.existing getters.existing setters.existing
  code : ∃ parts getterParts setterParts,
    g.TakenApart source .both selection out parts ∧
      g.TakenApart source .getters selection getters getterParts ∧
      g.TakenApart source .setters selection setters setterParts ∧
      Interleaves parts getterParts setterParts

/-- How two results for pairs differ whose pairs are in different order: the accessors of each
member change places, with the code that they have. -/
structure Reorders (out out' : Generated) : Prop where
  emitted_perm : out.emitted.Perm out'.emitted
  existing_perm : out.existing.Perm out'.existing
  existing : SwappedWithin (fun m n => n = m.getterName ∨ n = m.setterName)
    (g.selected source selection) out.existing out'.existing
  code : ∃ parts parts',
    g.TakenApart source .both selection out parts ∧
      g.flipped.TakenApart source .both selection out' parts' ∧
      SwappedWithin (fun m p => p.1 = m.getterName ∨ p.1 = m.setterName)
        (g.selected source selection) parts parts'
  skipped : out'.skipped = out.skipped
  selected : out'.selected = out.selected

end

variable {g : Generator} {source : Text} {selection : Selection}

theorem filter_requests (a : Accessor) :
    (g.requests source .both selection).filter (fun r => r.accessor == a) =
      g.requests source a.only selection :=
  Request.filter_ofMembers a _ _ _

/-- A batch of one accessor writes what a batch of pairs writes of it. -/
theorem fresh_only (a : Accessor) :
    Batch.fresh source [] (g.requests source a.only selection) =
      (Batch.fresh source [] (g.requests source .both selection)).filter fun r =>
        r.accessor == a := by
  rw [← filter_requests]
  refine (Batch.filter_fresh (fun q _ r _ h => ?_) fun r _ _ => Iff.rfl).symm
  rw [Request.accessor_eq_of_method_eq q r h]

theorem exists_generate_iff {kind : Kind} :
    (∃ out, g.generate source kind selection = .ok out) ↔ g.Renders source kind selection := by
  simp [generate_eq_ok_iff]

theorem renders_only (h : g.Renders source .both selection) (a : Accessor) :
    g.Renders source a.only selection := by
  intro r hr
  rw [fresh_only] at hr
  exact h r (List.mem_filter.mp hr).1

/-- Pairs fail only where one of their accessors fails without the other. -/
theorem exists_generate_both_iff : (∃ out, g.generate source .both selection = .ok out) ↔
    ∀ a : Accessor, ∃ out, g.generate source a.only selection = .ok out := by
  simp only [exists_generate_iff]
  refine ⟨renders_only, fun h r hr => h r.accessor r ?_⟩
  rw [fresh_only]
  exact List.mem_filter.mpr ⟨hr, beq_self_eq_true _⟩

theorem existing_outcome (kind : Kind) : (g.outcome source kind selection).existing =
    ((g.requests source kind selection).filter fun r => Method.declares source r.method).map
      Request.method :=
  List.filter_map

theorem combines_outcome (h : g.Renders source .both selection) :
    g.Combines source selection (g.outcome source .both selection)
      (g.outcome source .getters selection) (g.outcome source .setters selection) where
  emitted := by
    have hwritten := Request.interleaves_map Request.accessor_eq_of_method_eq
      (Batch.fresh source [] (g.requests source .both selection))
    rwa [← fresh_only, ← fresh_only] at hwritten
  existing := by
    have hfound := Request.interleaves_map Request.accessor_eq_of_method_eq
      ((g.requests source .both selection).filter fun r => Method.declares source r.method)
    rw [List.filter_comm, filter_requests, List.filter_comm, filter_requests] at hfound
    rw [existing_outcome, existing_outcome, existing_outcome]
    exact hfound
  code := by
    have hparts := Request.interleaves_map (f := fun r => (r.method, r.text g.template))
      (fun q r heq => Request.accessor_eq_of_method_eq q r (Prod.mk.inj heq).1)
      (Batch.fresh source [] (g.requests source .both selection))
    rw [← fresh_only, ← fresh_only] at hparts
    exact ⟨_, _, _, takenApart_outcome h, takenApart_outcome (renders_only h .getter),
      takenApart_outcome (renders_only h .setter), hparts⟩

theorem swappedWithin_requests : SwappedWithin (fun m r => r.member = m)
    (g.selected source selection) (Batch.fresh source [] (g.requests source .both selection))
    (Batch.fresh source [] (g.flipped.requests source .both selection)) :=
  Batch.swappedWithin_fresh source g.options.setterFirst _ fun _ => Iff.rfl

theorem swappedWithin_existing :
    SwappedWithin (fun m n => n = m.getterName ∨ n = m.setterName) (g.selected source selection)
      (g.outcome source .both selection).existing
      (g.flipped.outcome source .both selection).existing := by
  rw [existing_outcome, existing_outcome]
  refine (Request.swappedWithin_filter _ g.options.setterFirst _).map fun m r hr => ?_
  rw [← hr]
  exact r.method_eq_or

theorem renders_flipped (h : g.Renders source .both selection) :
    g.flipped.Renders source .both selection :=
  fun r hr => h r (swappedWithin_requests.perm.mem_iff.mpr hr)

theorem reorders_outcome (h : g.Renders source .both selection) :
    g.Reorders source selection (g.outcome source .both selection)
      (g.flipped.outcome source .both selection) where
  emitted_perm := swappedWithin_requests.perm.map Request.method
  existing_perm := swappedWithin_existing.perm
  existing := swappedWithin_existing
  code := by
    refine ⟨_, _, takenApart_outcome h, takenApart_outcome (renders_flipped h), ?_⟩
    refine swappedWithin_requests.map fun m r hr => ?_
    rw [← hr]
    exact r.method_eq_or
  skipped := rfl
  selected := rfl

end Generator

/-- Generating pairs is generating getters and setters: the one succeeds exactly if both others do,
and its result combines theirs. Flipping the order within pairs reorders the result for pairs and
changes nothing else. -/
theorem pairs_are_getters_and_setters (g : Generator) (source : Text) (selection : Selection) :
    ((∃ out, g.generate source .both selection = .ok out) ↔
      (∃ out, g.generate source .getters selection = .ok out) ∧
        ∃ out, g.generate source .setters selection = .ok out) ∧
    (∀ out getters setters, g.generate source .both selection = .ok out →
      g.generate source .getters selection = .ok getters →
      g.generate source .setters selection = .ok setters →
      g.Combines source selection out getters setters) ∧
    (∀ out, g.generate source .both selection = .ok out →
      ∃ out', g.flipped.generate source .both selection = .ok out' ∧
        g.Reorders source selection out out') ∧
    ∀ a : Accessor,
      g.flipped.generate source a.only selection = g.generate source a.only selection := by
  refine ⟨?_, ?_, ?_, fun a => ?_⟩
  · rw [Generator.exists_generate_both_iff]
    refine ⟨fun h => ⟨h .getter, h .setter⟩, fun h a => ?_⟩
    cases a with
    | getter => exact h.1
    | setter => exact h.2
  · intro out getters setters hout hgetters hsetters
    obtain ⟨h, rfl⟩ := Generator.generate_eq_ok_iff.mp hout
    obtain ⟨-, rfl⟩ := Generator.generate_eq_ok_iff.mp hgetters
    obtain ⟨-, rfl⟩ := Generator.generate_eq_ok_iff.mp hsetters
    exact Generator.combines_outcome h
  · intro out hout
    obtain ⟨h, rfl⟩ := Generator.generate_eq_ok_iff.mp hout
    exact ⟨_, Generator.generate_of_renders (Generator.renders_flipped h),
      Generator.reorders_outcome h⟩
  · cases a <;> rfl

def pairGenerator : Generator :=
  { getterGenerator with
    template := { getterGenerator.template with setter := "set \x7b\x7b name \x7d\x7d\n" } }

theorem crowdedClass_in_pairs :
    ∃ out getters setters out',
      pairGenerator.generate crowdedClass .both .all = .ok out ∧
        pairGenerator.generate crowdedClass .getters .all = .ok getters ∧
        pairGenerator.generate crowdedClass .setters .all = .ok setters ∧
        pairGenerator.Combines crowdedClass .all out getters setters ∧
        pairGenerator.flipped.generate crowdedClass .both .all = .ok out' ∧
        pairGenerator.Reorders crowdedClass .all out out' ∧
        out.emitted = ["_setFooBar".toList, "getSize".toList, "_setSize".toList,
          "setSize".toList] ∧
        out'.emitted = ["_setFooBar".toList, "_setSize".toList, "getSize".toList,
          "setSize".toList] := by
  have hout : pairGenerator.generate crowdedClass .both .all =
      .ok (pairGenerator.outcome crowdedClass .both .all) := by decide
  obtain ⟨hsucceeds, hcombines, hreorders, -⟩ :=
    pairs_are_getters_and_setters pairGenerator crowdedClass .all
  obtain ⟨⟨getters, hgetters⟩, setters, hsetters⟩ := hsucceeds.mp ⟨_, hout⟩
  obtain ⟨out', hout', hswapped⟩ := hreorders _ hout
  refine ⟨_, getters, setters, out', hout, hgetters, hsetters,
    hcombines _ _ _ hout hgetters hsetters, hout', hswapped, ?_, ?_⟩
  · decide
  · rw [(Generator.generate_eq_ok_iff.mp hout').2]
    decide

end Accessors

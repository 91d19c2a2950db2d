import Accessors.Generation.Generator
import Accessors.Proofs.RenderingVerdicts

/-!
# What a batch of requests yields

A batch works through its requests one by one. Its outcome is described here without the steps:
the requests that the source answers already are listed as existing, and of the others the first
one for each method is written.
-/

namespace Accessors

namespace Batch

/-- The requests that are written: those whose method neither the source declares nor an earlier
request has had written; `seen` holds the methods written before. -/
def fresh (source : Text) (seen : List Text) : List Request → List Request
  | [] => []
  | r :: rs =>
    if Method.declares source r.method || seen.contains r.method then fresh source seen rs
    else r :: fresh source (seen ++ [r.method]) rs

theorem fresh_cons_of_skipped {source : Text} {seen : List Text} {r : Request}
    (h : Method.declares source r.method = true ∨ r.method ∈ seen) (rs : List Request) :
    fresh source seen (r :: rs) = fresh source seen rs := by
  rw [fresh, if_pos (by simpa using h)]

theorem fresh_cons_of_new {source : Text} {seen : List Text} {r : Request}
    (hd : ¬Method.declares source r.method = true) (hm : r.method ∉ seen) (rs : List Request) :
    fresh source seen (r :: rs) = r :: fresh source (seen ++ [r.method]) rs := by
  rw [fresh, if_neg (by simp [hd, hm])]

theorem mem_fresh {source : Text} {seen : List Text} {rs : List Request} {r : Request}
    (h : r ∈ fresh source seen rs) : r ∈ rs ∧ Method.declares source r.method = false := by
  induction rs generalizing seen with
  | nil => cases h
  | cons q rs ih =>
    rw [fresh] at h
    split at h
    · exact (ih h).imp_left (List.mem_cons_of_mem q)
    · next hq =>
      rw [Bool.or_eq_true, not_or] at hq
      rcases List.mem_cons.mp h with rfl | h
      · exact ⟨List.mem_cons_self, Bool.eq_false_iff.mpr hq.1⟩
      · exact (ih h).imp_left (List.mem_cons_of_mem q)

/-- No requested method is lost: it is declared, or was written before, or is written now. -/
theorem mem_fresh_or {source : Text} {seen : List Text} {rs : List Request} {r : Request}
    (h : r ∈ rs) : Method.declares source r.method = true ∨ r.method ∈ seen ∨
      r.method ∈ (fresh source seen rs).map Request.method := by
  induction rs generalizing seen with
  | nil => cases h
  | cons q rs ih =>
    rw [fresh]
    split
    · next hq =>
      rw [Bool.or_eq_true, List.contains_iff_mem] at hq
      rcases List.mem_cons.mp h with rfl | h
      · exact hq.imp_right .inl
      · exact ih h
    · rcases List.mem_cons.mp h with rfl | h
      · exact .inr (.inr (by simp))
      · rcases @ih (seen ++ [q.method]) h with hd | hs | hf
        · exact .inl hd
        · rcases List.mem_append.mp hs with hs | hs
          · exact .inr (.inl hs)
          · exact .inr (.inr (by simp [List.mem_singleton.mp hs]))
        · exact .inr (.inr (List.mem_cons_of_mem _ hf))

theorem fresh_eq_nil {source : Text} {seen : List Text} {rs : List Request}
    (h : ∀ r ∈ rs, Method.declares source r.method = true) : fresh source seen rs = [] := by
  rw [List.eq_nil_iff_forall_not_mem]
  intro r hr
  have ⟨hmem, hd⟩ := mem_fresh hr
  rw [h r hmem] at hd
  cases hd

theorem method_notMem_of_mem_fresh {source : Text} {seen : List Text} {rs : List Request}
    {r : Request} (h : r ∈ fresh source seen rs) : r.method ∉ seen := by
  induction rs generalizing seen with
  | nil => cases h
  | cons q rs ih =>
    rw [fresh] at h
    split at h
    · exact ih h
    · next hq =>
      rw [Bool.or_eq_true, not_or, List.contains_iff_mem] at hq
      rcases List.mem_cons.mp h with rfl | h
      · exact hq.2
      · exact fun hmem => ih h (List.mem_append_left _ hmem)

/-- No method is written twice. -/
theorem nodup_fresh (source : Text) (seen : List Text) (rs : List Request) :
    ((fresh source seen rs).map Request.method).Nodup := by
  induction rs generalizing seen with
  | nil => exact .nil
  | cons q rs ih =>
    rw [fresh]
    split
    · exact ih seen
    · rw [List.map_cons, List.nodup_cons]
      refine ⟨fun hmem => ?_, ih (seen ++ [q.method])⟩
      obtain ⟨r, hr, hq⟩ := List.mem_map.mp hmem
      exact method_notMem_of_mem_fresh hr (by simp [hq])

/-- A batch whose fresh requests can all be rendered comes to its end. -/
theorem run_eq_of_fresh {t : Template} {code : Request → Text} {source : Text} {b : Batch}
    {rs : List Request} (h : ∀ r ∈ fresh source b.emitted rs, r.render t = .ok (code r)) :
    ∃ b', run t source b rs = (b', none) ∧
      b'.code = b.code ++ (fresh source b.emitted rs).flatMap code ∧
      b'.emitted = b.emitted ++ (fresh source b.emitted rs).map Request.method ∧
      b'.existing = b.existing ++ (rs.map Request.method).filter (Method.declares source) := by
  induction rs generalizing b with
  | nil => exact ⟨b, rfl, by simp [fresh]⟩
  | cons r rs ih =>
    by_cases hd : Method.declares source r.method = true
    · rw [fresh_cons_of_skipped (.inl hd)] at h ⊢
      obtain ⟨b', hb, hcode, hemitted, hexisting⟩ := @ih (b.pass r.method) h
      refine ⟨b', by rw [run, if_pos hd, hb], hcode, hemitted, ?_⟩
      simp [hexisting, pass, hd]
    · by_cases hm : r.method ∈ b.emitted
      · rw [fresh_cons_of_skipped (.inr hm)] at h ⊢
        obtain ⟨b', hb, hcode, hemitted, hexisting⟩ := @ih (b.repeated r.method) h
        refine ⟨b', by rw [run, if_neg hd, if_pos hm, hb], hcode, hemitted, ?_⟩
        simp [hexisting, repeated, hd]
      · rw [fresh_cons_of_new hd hm] at h ⊢
        obtain ⟨hr, hrs⟩ := List.forall_mem_cons.mp h
        obtain ⟨b', hb, hcode, hemitted, hexisting⟩ := @ih (b.emit r.method (code r)) hrs
        refine ⟨b', by rw [run, if_neg hd, if_neg hm, hr]; exact hb, ?_⟩
        simp [hcode, hemitted, hexisting, emit, hd]

/-- A batch whose requests can all be rendered comes to its end. -/
theorem run_eq_of_render {t : Template} {code : Request → Text} {rs : List Request}
    (h : ∀ r ∈ rs, r.render t = .ok (code r)) (source : Text) (b : Batch) :
    ∃ b', run t source b rs = (b', none) ∧
      b'.code = b.code ++ (fresh source b.emitted rs).flatMap code ∧
      b'.emitted = b.emitted ++ (fresh source b.emitted rs).map Request.method ∧
      b'.existing = b.existing ++ (rs.map Request.method).filter (Method.declares source) :=
  run_eq_of_fresh fun r hr => h r (mem_fresh hr).1

/-- A batch stops at the first fresh request that cannot be rendered. -/
theorem run_eq_error {t : Template} {source : Text} {b : Batch} {rs before after : List Request}
    {r : Request} {e : TemplateError} (hfresh : fresh source b.emitted rs = before ++ r :: after)
    (hbefore : ∀ q ∈ before, ∃ code, q.render t = .ok code) (hr : r.render t = .error e) :
    ∃ b', run t source b rs = (b', some e) := by
  induction rs generalizing b before with
  | nil => simp [fresh] at hfresh
  | cons q rs ih =>
    rw [run]
    by_cases hd : Method.declares source q.method = true
    · rw [fresh_cons_of_skipped (.inl hd)] at hfresh
      rw [if_pos hd]
      exact @ih (b.pass q.method) before hfresh hbefore
    · rw [if_neg hd]
      by_cases hm : q.method ∈ b.emitted
      · rw [fresh_cons_of_skipped (.inr hm)] at hfresh
        rw [if_pos hm]
        exact @ih (b.repeated q.method) before hfresh hbefore
      · rw [fresh_cons_of_new hd hm] at hfresh
        rw [if_neg hm]
        cases before with
        | nil =>
          obtain ⟨rfl, -⟩ := List.cons.inj hfresh
          rw [hr]
          exact ⟨b, rfl⟩
        | cons p before =>
          obtain ⟨rfl, hrest⟩ := List.cons.inj hfresh
          obtain ⟨⟨code, hcode⟩, hbefore⟩ := List.forall_mem_cons.mp hbefore
          rw [hcode]
          exact @ih (b.emit q.method code) before hrest hbefore

/-- Either all requests can be rendered, or one is the first that cannot. -/
theorem renders_or_fails (t : Template) (rs : List Request) :
    (∀ r ∈ rs, r.render t = .ok (r.text t)) ∨
      ∃ before r after e, rs = before ++ r :: after ∧
        (∀ q ∈ before, q.render t = .ok (q.text t)) ∧ r.render t = .error e := by
  induction rs with
  | nil => exact .inl (by simp)
  | cons q rs ih =>
    cases hq : q.render t with
    | error e => exact .inr ⟨[], q, rs, e, rfl, by simp, hq⟩
    | ok code =>
      have hcode := Request.text_of_render hq
      subst hcode
      rcases ih with hall | ⟨before, r, after, e, rfl, hbefore, hr⟩
      · exact .inl (List.forall_mem_cons.mpr ⟨hq, hall⟩)
      · exact .inr ⟨q :: before, r, after, e, rfl, List.forall_mem_cons.mpr ⟨hq, hbefore⟩, hr⟩

/-- A batch looks at its source only to see which of the requested methods it declares. -/
theorem run_congr {t : Template} {source source' : Text} {rs : List Request}
    (h : ∀ r ∈ rs, Method.declares source' r.method = Method.declares source r.method)
    (b : Batch) : run t source' b rs = run t source b rs := by
  induction rs generalizing b with
  | nil => rfl
  | cons r rs ih =>
    obtain ⟨hr, hrs⟩ := List.forall_mem_cons.mp h
    rw [run, run, hr]
    simp only [ih hrs]

end Batch

theorem Request.mem_ofMembers {kind : Kind} {setterFirst : Bool} {ms : List Member} {r : Request}
    (h : r ∈ ofMembers kind setterFirst ms) : r.member ∈ ms := by
  obtain ⟨m, hm, hr⟩ := List.mem_flatMap.mp h
  obtain ⟨a, -, rfl⟩ := List.mem_map.mp hr
  exact hm

namespace Generator

def requests (g : Generator) (source : Text) (kind : Kind) (selection : Selection) :
    List Request :=
  Request.ofMembers kind g.options.setterFirst (g.selected source selection)

/-- What a generator yields whose template is valid. -/
def outcome (g : Generator) (source : Text) (kind : Kind) (selection : Selection) : Generated where
  code :=
    (Batch.fresh source [] (g.requests source kind selection)).flatMap (Request.text g.template)
  emitted := (Batch.fresh source [] (g.requests source kind selection)).map Request.method
  existing :=
    ((g.requests source kind selection).map Request.method).filter (Method.declares source)
  skipped := (Survey.ofSource source).skipped
  selected := (g.selected source selection).length

/-- All that a generator writes for a source can be rendered. -/
def Renders (g : Generator) (source : Text) (kind : Kind) (selection : Selection) : Prop :=
  ∀ r ∈ Batch.fresh source [] (g.requests source kind selection),
    r.render g.template = .ok (r.text g.template)

variable {g : Generator} {source source' : Text} {kind : Kind} {selection : Selection}

theorem generate_of_renders (h : g.Renders source kind selection) :
    g.generate source kind selection = .ok (g.outcome source kind selection) := by
  obtain ⟨b, hb, hcode, hemitted, hexisting⟩ := @Batch.run_eq_of_fresh _ _ _ {} _ h
  rw [requests] at hb
  simp only [generate, batch, hb, outcome, hcode, hemitted, hexisting]
  simp

theorem generate_of_failure {before after : List Request} {r : Request} {e : TemplateError}
    (hfresh : Batch.fresh source [] (g.requests source kind selection) = before ++ r :: after)
    (hbefore : ∀ q ∈ before, q.render g.template = .ok (q.text g.template))
    (hr : r.render g.template = .error e) : g.generate source kind selection = .error e := by
  obtain ⟨b, hb⟩ :=
    @Batch.run_eq_error _ _ {} _ _ _ _ _ hfresh (fun q hq => ⟨_, hbefore q hq⟩) hr
  rw [requests] at hb
  simp only [generate, batch, hb]

/-- A generator yields its outcome if all that is written can be rendered, and nothing else. -/
theorem generate_eq_ok_iff {out : Generated} :
    g.generate source kind selection = .ok out ↔
      g.Renders source kind selection ∧ out = g.outcome source kind selection := by
  constructor
  · intro h
    rcases Batch.renders_or_fails g.template
        (Batch.fresh source [] (g.requests source kind selection)) with
      hall | ⟨before, r, after, e, hfresh, hbefore, hr⟩
    · rw [generate_of_renders hall] at h
      exact ⟨hall, (Except.ok.inj h).symm⟩
    · rw [generate_of_failure hfresh hbefore hr] at h
      cases h
  · rintro ⟨hall, rfl⟩
    exact generate_of_renders hall

/-- A generator fails with the complaint about the first of what is written that cannot be
rendered. -/
theorem generate_eq_error_iff {e : TemplateError} :
    g.generate source kind selection = .error e ↔
      ∃ before r after,
        Batch.fresh source [] (g.requests source kind selection) = before ++ r :: after ∧
          (∀ q ∈ before, q.render g.template = .ok (q.text g.template)) ∧
            r.render g.template = .error e := by
  constructor
  · intro h
    rcases Batch.renders_or_fails g.template
        (Batch.fresh source [] (g.requests source kind selection)) with
      hall | ⟨before, r, after, e', hfresh, hbefore, hr⟩
    · rw [generate_of_renders hall] at h
      cases h
    · rw [generate_of_failure hfresh hbefore hr] at h
      obtain rfl := Except.error.inj h
      exact ⟨before, r, after, hfresh, hbefore, hr⟩
  · rintro ⟨before, r, after, hfresh, hbefore, hr⟩
    exact generate_of_failure hfresh hbefore hr

/-- A valid template never fails. -/
theorem generate_eq_ok (h : g.template.validate = .ok ()) (source : Text) (kind : Kind)
    (selection : Selection) :
    g.generate source kind selection = .ok (g.outcome source kind selection) :=
  generate_of_renders fun r _ => r.render_eq_ok h

/-- What is written are the fresh requests, whether or not the template is valid. -/
theorem emitted_of_generate {out : Generated} (h : g.generate source kind selection = .ok out) :
    out.emitted =
      (Batch.fresh source [] (g.requests source kind selection)).map Request.method := by
  obtain ⟨-, rfl⟩ := generate_eq_ok_iff.mp h
  rfl

theorem mem_requests {r : Request} (h : r ∈ g.requests source kind selection) :
    r.member ∈ g.selected source selection :=
  Request.mem_ofMembers h

theorem selected_congr (hmembers : g.members source' = g.members source) :
    g.selected source' selection = g.selected source selection := by
  rw [selected, selected, hmembers]

/-- A batch depends on the members of a source and on the requested methods that it declares. -/
theorem batch_congr (hmembers : g.members source' = g.members source)
    (hdeclares : ∀ r ∈ g.requests source kind selection,
      Method.declares source' r.method = Method.declares source r.method) :
    g.batch source' kind (g.selected source' selection) =
      g.batch source kind (g.selected source selection) := by
  rw [selected_congr hmembers]
  exact Batch.run_congr hdeclares {}

/-- Generation depends on the survey of a source and on the requested methods that it declares. -/
theorem generate_congr (hsurvey : Survey.ofSource source' = Survey.ofSource source)
    (hdeclares : ∀ r ∈ g.requests source kind selection,
      Method.declares source' r.method = Method.declares source r.method) :
    g.generate source' kind selection = g.generate source kind selection := by
  have hmembers : g.members source' = g.members source := by
    rw [members, members, hsurvey]
  rw [generate, generate, batch_congr hmembers hdeclares, selected_congr hmembers, hsurvey]

end Generator

end Accessors

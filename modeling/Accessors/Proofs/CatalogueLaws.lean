import Accessors.Generation.Generator
import Accessors.Proofs.TextLaws

/-!
# What a catalogue holds

A table answers with the last entry put under a name. The catalogue of the standard templates
therefore holds exactly these, each under its own name.
-/

namespace Accessors

namespace NameMap

variable {α : Type}

theorem eq_of_entries {m m' : NameMap α} (h : m.entries = m'.entries) : m = m' := by
  cases m
  cases m'
  cases h
  rfl

theorem nodup_names (m : NameMap α) : m.names.Nodup := by
  refine List.pairwise_map.mpr (m.sorted.imp fun hlt heq => ?_)
  rw [heq] at hlt
  exact Std.lt_irrefl hlt

theorem insertEntry_of_forall_lt {k : Text} {a : α} {l : List (Text × α)}
    (h : ∀ e ∈ l, e.1 < k) : insertEntry k a l = l ++ [(k, a)] := by
  induction l with
  | nil => rfl
  | cons e l ih =>
    have hlt : e.1 < k := h e List.mem_cons_self
    have hnot : ¬k < e.1 := fun hgt => Std.lt_irrefl (Std.lt_trans hlt hgt)
    have hne : k ≠ e.1 := by
      intro heq
      rw [heq] at hlt
      exact Std.lt_irrefl hlt
    rw [insertEntry, if_neg hnot, if_neg hne,
      ih fun d hd => h d (List.mem_cons_of_mem e hd)]
    rfl

theorem lookup_insertEntry (k j : Text) (a : α) (l : List (Text × α)) :
    (insertEntry k a l).lookup j = if j = k then some a else l.lookup j := by
  induction l with
  | nil => exact Text.lookup_cons k j a []
  | cons e l ih =>
    obtain ⟨e, b⟩ := e
    rw [insertEntry]
    split
    · exact Text.lookup_cons k j a _
    · split
      · next hk =>
        obtain rfl : k = e := hk
        rw [Text.lookup_cons, Text.lookup_cons]
        split <;> rfl
      · next hk =>
        rw [Text.lookup_cons, Text.lookup_cons, ih]
        by_cases hj : j = e
        · have hne : e ≠ k := Ne.symm hk
          simp [hj, hne]
        · simp [hj]

@[simp] theorem find?_empty (k : Text) : (∅ : NameMap α).find? k = none := rfl

theorem find?_insert (m : NameMap α) (k j : Text) (a : α) :
    (m.insert k a).find? j = if j = k then some a else m.find? j :=
  lookup_insertEntry k j a m.entries

theorem mem_entries_of_find? {m : NameMap α} {k : Text} {a : α} (h : m.find? k = some a) :
    (k, a) ∈ m.entries := by
  obtain ⟨l, r, hm, -⟩ := List.lookup_eq_some_iff.mp h
  rw [hm]
  exact List.mem_append_right l List.mem_cons_self

/-- The entries before one of them are those of smaller names. -/
theorem mem_before_iff {m : NameMap α} {before after : List (Text × α)} {p q : Text × α}
    (h : m.entries = before ++ q :: after) : p ∈ before ↔ p ∈ m.entries ∧ p.1 < q.1 := by
  have hsorted := m.sorted
  rw [h, List.pairwise_append, List.pairwise_cons] at hsorted
  obtain ⟨-, ⟨hafter, -⟩, hbefore⟩ := hsorted
  rw [h, List.mem_append, List.mem_cons]
  constructor
  · intro hp
    exact ⟨.inl hp, hbefore p hp q List.mem_cons_self⟩
  · rintro ⟨hp | rfl | hp, hlt⟩
    · exact hp
    · exact absurd hlt Std.lt_irrefl
    · exact absurd (Std.lt_trans hlt (hafter p hp)) Std.lt_irrefl

theorem find?_eq_some_iff {m : NameMap α} {k : Text} {a : α} :
    m.find? k = some a ↔ (k, a) ∈ m.entries := by
  refine ⟨mem_entries_of_find?, fun h => ?_⟩
  obtain ⟨before, after, hm⟩ := List.append_of_mem h
  refine List.lookup_eq_some_iff.mpr ⟨before, after, hm, fun p hp => ?_⟩
  have hlt : p.1 < k := ((mem_before_iff hm).mp hp).2
  simp only [bne_iff_ne, ne_eq]
  rintro rfl
  exact Std.lt_irrefl hlt

theorem mem_names_iff {m : NameMap α} {k : Text} : k ∈ m.names ↔ ∃ a, m.find? k = some a := by
  rw [← Option.isSome_iff_exists, find?, List.lookup_isSome_iff, names, List.mem_map]
  exact exists_congr fun e => and_congr_right fun _ => eq_comm.trans beq_iff_eq.symm

end NameMap

namespace Catalogue

theorem find_eq_ok_iff {c : Catalogue} {n : Text} {t : Template} :
    c.find n = .ok t ↔ c.find? n = some t := by
  rw [find]
  cases c.find? n with
  | none => simp
  | some u => simp

theorem find_eq_error {c : Catalogue} {n : Text} (h : n ∉ c.names) :
    c.find n = .error (.unknownTemplate n c.names) := by
  have hn : c.find? n = none := by
    rw [Option.eq_none_iff_forall_ne_some]
    intro t ht
    exact h (NameMap.mem_names_iff.mpr ⟨t, ht⟩)
  rw [find, hn]

/-- Of the templates added under one name the last counts. -/
theorem find?_addAll (c : Catalogue) (ts : List Template) (n : Text) :
    (addAll c ts).find? n = (ts.reverse.find? fun t => t.name == n).or (c.find? n) := by
  induction ts generalizing c with
  | nil => rfl
  | cons t ts ih =>
    rw [addAll, List.foldl_cons, ← addAll, ih, add, NameMap.find?_insert, List.reverse_cons,
      List.find?_append, Option.or_assoc]
    by_cases h : n = t.name
    · simp [h]
    · simp [h, Ne.symm h]

theorem find?_standard (s : Standard) (tabs : Bool) :
    (standard tabs).find? s.name = some (s.template.indented tabs) := by
  rw [standard, find?_addAll]
  cases s <;> cases tabs <;> rfl

theorem exists_of_find?_standard {tabs : Bool} {n : Text} {t : Template}
    (h : (standard tabs).find? n = some t) :
    ∃ s : Standard, s.name = n ∧ t = s.template.indented tabs := by
  rw [standard, find?_addAll, NameMap.find?_empty, Option.or_none] at h
  have hn := List.find?_some h
  have hm := List.mem_reverse.mp (List.mem_of_find?_eq_some h)
  obtain ⟨s, -, rfl⟩ := List.mem_map.mp hm
  refine ⟨s, ?_, rfl⟩
  have hname : (s.template.indented tabs).name = s.name := by cases tabs <;> rfl
  rw [← hname]
  exact beq_iff_eq.mp hn

theorem find?_standard_eq_some_iff {tabs : Bool} {n : Text} {t : Template} :
    (standard tabs).find? n = some t ↔
      ∃ s : Standard, s.name = n ∧ t = s.template.indented tabs := by
  refine ⟨exists_of_find?_standard, ?_⟩
  rintro ⟨s, rfl, rfl⟩
  exact find?_standard s tabs

end Catalogue

def Standard.generator (s : Standard) (tabs : Bool) (options : Options) : Generator :=
  ⟨s.template.indented tabs, options⟩

namespace Generator

/-- The generators over the standard templates. -/
theorem resolve_standard_eq_ok_iff {tabs : Bool} {options : Options} {g : Generator} :
    resolve (Catalogue.standard tabs) options = .ok g ↔
      ∃ s : Standard, s.name = options.template ∧ g = s.generator tabs options := by
  constructor
  · intro h
    rw [resolve] at h
    cases hf : (Catalogue.standard tabs).find options.template with
    | error e =>
      rw [hf] at h
      cases h
    | ok t =>
      rw [hf] at h
      obtain ⟨s, hs, rfl⟩ := Catalogue.exists_of_find?_standard (Catalogue.find_eq_ok_iff.mp hf)
      exact ⟨s, hs, (Except.ok.inj h).symm⟩
  · rintro ⟨s, hs, rfl⟩
    rw [resolve, ← hs, Catalogue.find_eq_ok_iff.mpr (Catalogue.find?_standard s tabs)]
    rfl

end Generator

end Accessors

import Accessors.Proofs.QuotedFacts
import Accessors.Proofs.StandardCode
import Accessors.Proofs.SurveyStability

/-!
# Generated code is inert

What fills the holes of a standard template stays within a line, descriptions apart, so the rows of
the template are the lines of the code. None of them declares a member.
-/

namespace Accessors

open Text

/-- A member all of whose facts but its description stay within a line. -/
def Member.OneLine (m : Member) : Prop :=
  ∀ p : Placeholder, p ≠ .description → '\n' ∉ m.value p

/-- The hint is the declared type, unless there is none, or it is ignored, or it has a space or a
bar. -/
theorem TypeHint.text_ofDeclared_cases (ignored : List Text) (type : Text) :
    (ofDeclared ignored type).text = [] ∧
        (type = [] ∨ type ∈ ignored ∨ ' ' ∈ type ∨ '|' ∈ type) ∨
      (ofDeclared ignored type).text = type ∧ type ∉ ignored ∧ ' ' ∉ type ∧ '|' ∉ type := by
  unfold ofDeclared
  split
  · next h =>
    rw [Bool.or_eq_true, List.isEmpty_iff, List.contains_iff_mem] at h
    exact .inl ⟨rfl, h.imp_right .inl⟩
  · next h =>
    rw [Bool.or_eq_true, not_or, List.contains_iff_mem] at h
    split
    · next hseveral =>
      rw [Bool.or_eq_true, List.contains_iff_mem, List.contains_iff_mem] at hseveral
      exact .inl ⟨rfl, .inr (.inr hseveral)⟩
    · next hone =>
      rw [Bool.or_eq_true, not_or, List.contains_iff_mem, List.contains_iff_mem] at hone
      exact .inr ⟨rfl, h.2, hone⟩

theorem Generator.hint_of_mem_members {g : Generator} {source : Text} {m : Member}
    (h : m ∈ g.members source) : m.hint.text = [] ∨ m.hint.text = m.declaredType := by
  obtain ⟨d, -, rfl⟩ := List.mem_map.mp h
  exact (TypeHint.text_ofDeclared_cases _ _).imp And.left And.left

theorem Generator.oneLine_of_mem_members {g : Generator} {source : Text} {m : Member}
    (h : m ∈ g.members source) : m.OneLine := by
  have htype : '\n' ∉ m.declaredType := by
    rcases declaredType_cases h with ⟨-, hline⟩ | hdefault
    · exact hline
    · rw [hdefault]
      decide
  intro p hp
  by_cases hptype : p = .type
  · rwa [hptype]
  by_cases hphint : p = .typeHint
  · rw [hphint, Member.value]
    rcases hint_of_mem_members h with hhint | hhint
    · rw [hhint]
      exact List.not_mem_nil
    · rwa [hhint]
  · intro hmem
    rcases Member.eq_space_or_isNameChar_of_mem_value (isName_of_mem_members h) hptype hphint hp
      hmem with hspace | hname
    · cases hspace
    · cases hname

theorem Body.mem_of_mem_closeGaps {t : Text} {c : Char} (h : c ∈ closeGaps t) : c ∈ t := by
  fun_induction closeGaps t with
  | case1 t ih =>
    rcases List.mem_cons.mp h with rfl | h
    · exact List.mem_cons_self
    · exact List.mem_cons_of_mem _ (List.mem_cons_of_mem _ (ih h))
  | case2 d t hne ih =>
    rcases List.mem_cons.mp h with rfl | h
    · exact List.mem_cons_self
    · exact List.mem_cons_of_mem _ (ih h)
  | case3 => exact h

theorem Body.isPlain_closeGaps {t : Text} (h : DeclarationLine.isPlain t = true) :
    DeclarationLine.isPlain (closeGaps t) = true := by
  fun_induction closeGaps t with
  | case1 t ih => rfl
  | case2 d t hne ih =>
    rw [DeclarationLine.isPlain] at h ⊢
    split at h
    · next hd => rw [if_pos hd, ih h]
    · next hd => rw [if_neg hd, h]
  | case3 => rfl

theorem Accessor.newline_notMem_finish {a : Accessor} {t : Text} (h : '\n' ∉ t) :
    '\n' ∉ a.finish t := by
  cases a with
  | getter => exact h
  | setter => exact fun hmem => h (Body.mem_of_mem_closeGaps hmem)

theorem Accessor.isPlain_finish {a : Accessor} {t : Text} (h : DeclarationLine.isPlain t = true) :
    DeclarationLine.isPlain (a.finish t) = true := by
  cases a with
  | getter => exact h
  | setter => exact Body.isPlain_closeGaps h

theorem Member.isPlain_filledRow (m : Member) {row : List Piece}
    (h : Standard.isPlain row = true) : DeclarationLine.isPlain (m.filledRow row) = true := by
  induction row with
  | nil => rfl
  | cons p row ih =>
    cases p with
    | hole inner => cases h
    | char c =>
      change DeclarationLine.isPlain (c :: m.filledRow row) = true
      rw [Standard.isPlain] at h
      rw [DeclarationLine.isPlain]
      split at h
      · next hc => rw [if_pos hc, ih h]
      · next hc => rw [if_neg hc, h]

theorem Member.newline_notMem_filledRow {m : Member} (hone : m.OneLine) {row : List Piece}
    (hrow : .char '\n' ∉ row)
    (hdesc : '\n' ∉ m.description ∨ ∀ p ∈ row, p.key? ≠ some Placeholder.description.key) :
    '\n' ∉ m.filledRow row := by
  intro hfilled
  obtain ⟨p, hp, hmem⟩ := List.mem_flatMap.mp hfilled
  cases p with
  | char c =>
    obtain rfl := List.mem_singleton.mp hmem
    exact hrow hp
  | hole inner =>
    rcases m.filled_hole_cases inner with hnil | ⟨q, hkey, hvalue⟩
    · rw [hnil] at hmem
      cases hmem
    · rw [hvalue] at hmem
      by_cases hq : q = .description
      · subst hq
        rcases hdesc with hdesc | homits
        · exact hdesc hmem
        · have hfound := List.find?_some hkey
          exact homits _ hp (congrArg some (beq_iff_eq.mp hfound).symm)
      · exact hone q hq hmem

namespace Request

variable {s : Standard} {r : Request}

theorem isPlain_line (r : Request) {row : List Piece} (h : Standard.isPlain row = true) :
    DeclarationLine.isPlain (r.line row) = true :=
  Accessor.isPlain_finish (r.member.isPlain_filledRow h)

theorem newline_notMem_line (hone : r.member.OneLine)
    (hdesc : s.isTerse = true ∨ '\n' ∉ r.member.description) {row : List Piece}
    (hrow : .char '\n' ∉ row) (hknown : ∀ p ∈ row, s.isKnown p = true) : '\n' ∉ r.line row := by
  apply Accessor.newline_notMem_finish
  apply Member.newline_notMem_filledRow hone hrow
  rcases hdesc with hterse | hdesc
  · refine .inr fun p hp hkey => ?_
    have hp' := hknown p hp
    simp [Standard.isKnown, hkey, hterse] at hp'
  · exact .inl hdesc

/-- No row of a method becomes a line that declares a member. -/
theorem Fits.read?_line (h : r.Fits s) {tabs : Bool} {row : List Piece}
    (hrow : row ∈ Body.rows ((s.template.indented tabs).body r.accessor)) :
    DeclarationLine.read? (r.line row) = none := by
  have hmethod := s.isMethod_rows tabs r.accessor
  simp only [Standard.isMethod, Bool.and_eq_true, Bool.or_eq_true, List.all_eq_true] at hmethod
  rcases (hmethod.2 row hrow).1 with hsignature | hplain
  · obtain ⟨v, rest, hline⟩ := h.isSignature_line (List.isPrefixOf_iff_prefix.mp hsignature)
    rw [hline]
    apply DeclarationLine.read?_signature _ v (isName_method h.name)
    cases tabs <;> exact List.all_eq_true.mp rfl
  · exact DeclarationLine.read?_eq_none_of_isPlain (r.isPlain_line hplain)

/-- The code of a request is inert. -/
theorem Fits.inert_text (h : r.Fits s) (hone : r.member.OneLine)
    (hdesc : s.isTerse = true ∨ '\n' ∉ r.member.description) (tabs : Bool) :
    Inert (r.text (s.template.indented tabs)) := by
  have hmethod := s.isMethod_rows tabs r.accessor
  simp only [Standard.isMethod, Bool.and_eq_true, Bool.or_eq_true, List.all_eq_true,
    beq_iff_eq] at hmethod
  obtain ⟨⟨⟨hfirst, hlast⟩, -⟩, hrows⟩ := hmethod
  have hlines : lines (r.text (s.template.indented tabs)) =
      (Body.rows ((s.template.indented tabs).body r.accessor)).map r.line := by
    rw [text_eq_joinWith]
    refine lines_joinWith ?_ ?_
    · intro l hl
      obtain ⟨row, hrow, rfl⟩ := List.mem_map.mp hl
      exact newline_notMem_line hone hdesc (notMem_of_mem_splitOn hrow) (hrows row hrow).2
    · intro hnil
      rw [List.map_eq_nil_iff.mp hnil] at hfirst
      cases hfirst
  refine ⟨?_, ?_, ?_⟩
  · rw [hlines, List.head?_map, hfirst, Option.map_some, r.line_nil]
  · rw [hlines, List.getLast?_map, hlast, Option.map_some, r.line_nil]
  · intro l hl
    rw [hlines] at hl
    obtain ⟨row, hrow, rfl⟩ := List.mem_map.mp hl
    exact h.read?_line hrow

end Request

end Accessors

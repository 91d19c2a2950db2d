import Accessors.Proofs.TemplateFilling

/-!
# Validation is a trial of rendering

Validating a template goes through the keys of both bodies, each once, and asks a fixed list.
Rendering goes through one body at a time and asks a member for values. Both give up at the same
key: the first of the getter that names no fact, or else the first of the setter.
-/

namespace Accessors

/-- Dropping repeats does not change which entry is found first. -/
theorem find?_eraseDups {α : Type} [BEq α] [LawfulBEq α] (p : α → Bool) (l : List α) :
    l.eraseDups.find? p = l.find? p := by
  induction hn : l.length using Nat.strong_induction_on generalizing l with
  | _ n ih =>
    cases l with
    | nil => rfl
    | cons a l =>
      rw [List.eraseDups_cons, List.find?_cons, List.find?_cons]
      cases ha : p a with
      | true => rfl
      | false =>
        have hlength := List.length_filter_le (fun b => !b == a) l
        rw [List.length_cons] at hn
        dsimp only
        rw [ih _ (by omega) _ rfl, List.find?_filter]
        congr 1
        funext b
        cases hb : b == a with
        | true => simp [eq_of_beq hb, ha]
        | false => simp

namespace Body

/-- The first key of a body that names no fact. -/
def stray? (body : Text) : Option Text :=
  (keys body).find? fun k => (Placeholder.ofKey? k).isNone

theorem stray?_eq_none_iff {body : Text} :
    stray? body = none ↔ ∀ k ∈ keys body, (Placeholder.ofKey? k).isSome := by
  rw [stray?, List.find?_eq_none]
  simp [Option.isSome_iff_ne_none]

/-- Filling fails at the first key without a value, whatever stands before it. -/
theorem fillPieces_eq_error {values : Text → Option Text} {ps : List Piece} {k : Text}
    (h : (ps.filterMap Piece.key?).find? (fun k => (values k).isNone) = some k) :
    fillPieces values ps = .error k := by
  induction ps with
  | nil => cases h
  | cons p ps ih =>
    cases p with
    | char c =>
      rw [fillPieces, ih (by simpa [Piece.key?] using h)]
      rfl
    | hole inner =>
      simp only [List.filterMap_cons, Piece.key?, List.find?_cons] at h
      rw [fillPieces]
      cases hv : values (Text.trim inner) with
      | some v =>
        rw [hv] at h
        dsimp only
        rw [ih h]
        rfl
      | none =>
        rw [hv] at h
        obtain rfl := Option.some.inj h
        rfl

end Body

namespace Member

variable {m : Member} {t : Template} {k : Text}

theorem isNone_valueOfKey (m : Member) (k : Text) :
    (m.valueOfKey k).isNone = (Placeholder.ofKey? k).isNone := by
  rw [valueOfKey, Option.isNone_map]

theorem render_of_stray? {body : Text} (h : Body.stray? body = some k) (name : Text) :
    Template.render name m.valueOfKey body = .error (.unknownPlaceholder name k) := by
  have hfill : Body.fill m.valueOfKey body = .error k := by
    apply Body.fillPieces_eq_error
    simp only [isNone_valueOfKey]
    exact h
  rw [Template.render, hfill]
  rfl

theorem renderSetter_eq_error (h : Body.stray? t.setter = some k) :
    m.renderSetter t = .error (.unknownPlaceholder t.name k) := by
  rw [renderSetter, render_of_stray? h]
  rfl

end Member

/-- What is rendered is the filled body. -/
theorem Request.text_of_render {t : Template} {r : Request} {code : Text}
    (h : r.render t = .ok code) : code = r.text t := by
  cases hstray : Body.stray? (t.body r.accessor) with
  | none =>
    rw [r.render_of_known (Body.stray?_eq_none_iff.mp hstray)] at h
    exact (Except.ok.inj h).symm
  | some k =>
    have herror : r.render t = .error (.unknownPlaceholder t.name k) := by
      rw [render]
      cases hr : r.accessor with
      | getter =>
        rw [hr] at hstray
        exact Member.render_of_stray? hstray t.name
      | setter =>
        rw [hr] at hstray
        exact Member.renderSetter_eq_error hstray
    rw [herror] at h
    cases h

namespace Template

variable {t : Template}

/-- A template is refused for the first unknown key of its getter, or else of its setter. -/
theorem validate_eq_error_iff {e : TemplateError} :
    t.validate = .error e ↔ ∃ k, e = .unknownPlaceholder t.name k ∧
      (Body.stray? t.getter = some k ∨
        Body.stray? t.getter = none ∧ Body.stray? t.setter = some k) := by
  have hfirst : (t.keys.find? fun k => (Placeholder.ofKey? k).isNone) =
      (Body.stray? t.getter).or (Body.stray? t.setter) := by
    rw [keys, find?_eraseDups, List.find?_append]
    rfl
  simp only [validate, hfirst, ← Option.or_eq_some_iff]
  cases (Body.stray? t.getter).or (Body.stray? t.setter) with
  | none => simp
  | some k => simp [eq_comm]

/-- A refused template fails for every member, with the same complaint: in the getter, or after it
in the setter. -/
theorem render_of_validate_eq_error {e : TemplateError} (h : t.validate = .error e) (m : Member) :
    m.renderGetter t = .error e ∨
      (∃ code, m.renderGetter t = .ok code) ∧ m.renderSetter t = .error e := by
  obtain ⟨k, rfl, hgetter | ⟨hgetter, hsetter⟩⟩ := validate_eq_error_iff.mp h
  · exact .inl (Member.render_of_stray? hgetter t.name)
  · have hok := m.render_eq_ok (Body.stray?_eq_none_iff.mp hgetter) t.name
    exact .inr ⟨⟨_, hok⟩, Member.renderSetter_eq_error hsetter⟩

end Template

/-- Validation predicts rendering: a valid template renders both accessors of every member, a
refused one fails for every member with the complaint of its validation, and tabs do not change
the verdict. -/
theorem validation_predicts_rendering (t : Template) :
    (t.validate = .ok () ↔
        ∀ m : Member, (∃ code, m.renderGetter t = .ok code) ∧
          ∃ code, m.renderSetter t = .ok code) ∧
      (∀ e, t.validate = .error e → ∀ m : Member,
        m.renderGetter t = .error e ∨
          (∃ code, m.renderGetter t = .ok code) ∧ m.renderSetter t = .error e) ∧
      (t.tabbed.validate = .ok () ↔ t.validate = .ok ()) := by
  refine ⟨⟨fun h m => ?_, fun h => ?_⟩, fun e h => Template.render_of_validate_eq_error h,
    Template.validate_tabbed_eq_ok_iff⟩
  · exact ⟨⟨_, Request.render_eq_ok ⟨.getter, m⟩ h⟩, ⟨_, Request.render_eq_ok ⟨.setter, m⟩ h⟩⟩
  · cases hv : t.validate with
    | ok u => rfl
    | error e =>
      -- One member that both accessors are rendered for is enough.
      obtain ⟨⟨getter, hgetter⟩, setter, hsetter⟩ :=
        h (.ofDeclaration t {} ⟨[], .isPublic, none, 1, []⟩)
      rcases Template.render_of_validate_eq_error hv _ with herror | ⟨-, herror⟩
      · rw [hgetter] at herror
        cases herror
      · rw [hsetter] at herror
        cases herror

/-- A template with more braces than a hole needs, and two unknown keys in its setter. -/
def misspelledTemplate : Template where
  name := "Mine"
  style := .camel
  getter := "get\x7b\x7b\x7b name \x7d\x7d\x7d"
  setter := "set\x7b\x7bname\x7d\x7d(\x7b\x7b    normalized-name \x7d\x7d \x7b\x7bnope\x7d\x7d)"
  marksPrivate := true

theorem misspelledTemplate_predicts_rendering :
    misspelledTemplate.validate = .error (.unknownPlaceholder "Mine" "normalized-name") ∧
      ∀ m : Member,
        m.renderGetter misspelledTemplate =
            .error (.unknownPlaceholder "Mine" "normalized-name") ∨
          (∃ code, m.renderGetter misspelledTemplate = .ok code) ∧
            m.renderSetter misspelledTemplate =
              .error (.unknownPlaceholder "Mine" "normalized-name") := by
  have h : misspelledTemplate.validate =
      .error (.unknownPlaceholder "Mine" "normalized-name") := by decide
  exact ⟨h, (validation_predicts_rendering misspelledTemplate).2.1 _ h⟩

end Accessors

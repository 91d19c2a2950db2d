import Accessors.Proofs.BatchOutcome
import Accessors.Proofs.CatalogueLaws
import Accessors.Proofs.DeclaredMethods
import Accessors.Proofs.NameCharacters

/-!
# The code of standard templates

A standard template writes a method in rows: between two empty ones stand the rows of a doc
comment, of the signature and of the statements. Whatever fills the holes, the signature declares
the requested method, and no other row begins like the declaration of a member.
-/

namespace Accessors

open Text

namespace Body

/-- The pieces of a body between its line feeds. -/
def rows (body : Text) : List (List Piece) :=
  (pieces body).splitOn (.char '\n')

theorem intercalate_rows (body : Text) : [Piece.char '\n'].intercalate (rows body) = pieces body :=
  List.intercalate_splitOn (Piece.char '\n')

theorem closeGaps_cons {c : Char} {t : Text} (h : c ≠ '(' ∨ t.head? ≠ some ' ') :
    closeGaps (c :: t) = c :: closeGaps t := by
  rw [closeGaps]
  rintro t' rfl rfl
  simp at h

theorem closeGaps_append_of_notMem {u : Text} (h : '(' ∉ u) (t : Text) :
    closeGaps (u ++ t) = u ++ closeGaps t := by
  induction u with
  | nil => rfl
  | cons c u ih =>
    obtain ⟨hc, hu⟩ := List.ne_and_not_mem_of_not_mem_cons h
    rw [List.cons_append, closeGaps_cons (.inl (Ne.symm hc)), ih hu]
    rfl

theorem exists_closeGaps_parenthesis (t : Text) : ∃ t', closeGaps ('(' :: t) = '(' :: t' := by
  by_cases h : t.head? = some ' '
  · obtain ⟨t', rfl⟩ := List.head?_eq_some_iff.mp h
    exact ⟨closeGaps t', rfl⟩
  · exact ⟨closeGaps t, closeGaps_cons (.inr h)⟩

theorem closeGaps_append {b : Text} (h : b.head? ≠ some ' ') (a : Text) :
    closeGaps (a ++ b) = closeGaps a ++ closeGaps b := by
  fun_induction closeGaps a with
  | case1 t ih =>
    rw [List.cons_append, List.cons_append, List.cons_append, ← ih]
    rfl
  | case2 c t hne ih =>
    rw [List.cons_append, closeGaps_cons, ih, List.cons_append]
    by_cases hc : c = '('
    · right
      cases t with
      | nil => exact h
      | cons d t =>
        rintro ⟨rfl⟩
        exact hne t hc rfl
    · exact .inl hc
  | case3 => rfl

theorem closeGaps_joinWith (ts : List Text) :
    closeGaps (joinWith ['\n'] ts) = joinWith ['\n'] (ts.map closeGaps) := by
  induction ts with
  | nil => rfl
  | cons t ts ih =>
    cases ts with
    | nil => simp [joinWith]
    | cons t' ts =>
      have hnewline : ∀ u, closeGaps ('\n' :: u) = '\n' :: closeGaps u :=
        fun u => closeGaps_cons (.inl (by decide))
      simp only [joinWith, List.map_cons, List.intercalate_cons_cons, List.append_assoc,
        List.singleton_append] at ih ⊢
      rw [closeGaps_append (by simp), hnewline, ih]

end Body

theorem Accessor.finish_joinWith (a : Accessor) (ts : List Text) :
    a.finish (joinWith ['\n'] ts) = joinWith ['\n'] (ts.map a.finish) := by
  cases a with
  | getter => exact congrArg (joinWith ['\n']) (List.map_id ts).symm
  | setter => exact Body.closeGaps_joinWith ts

def Member.filledRow (m : Member) (row : List Piece) : Text :=
  row.flatMap (Piece.filled m.valueOfKey)

def Piece.plain (t : Text) : List Piece :=
  t.map char

def Piece.fact (p : Placeholder) : List Piece :=
  [hole p.key]

namespace Member

variable (m : Member)

@[simp] theorem filledRow_append (row row' : List Piece) :
    m.filledRow (row ++ row') = m.filledRow row ++ m.filledRow row' :=
  List.flatMap_append

@[simp] theorem filledRow_plain (t : Text) : m.filledRow (Piece.plain t) = t := by
  induction t with
  | nil => rfl
  | cons c t ih =>
    change [c] ++ m.filledRow (Piece.plain t) = c :: t
    rw [ih]
    rfl

@[simp] theorem filledRow_fact (p : Placeholder) : m.filledRow (Piece.fact p) = m.value p := by
  have hvalue : m.valueOfKey (trim p.key) = some (m.value p) := by cases p <;> rfl
  simp [filledRow, Piece.fact, Piece.filled, hvalue]

end Member

theorem Member.filled_hole_cases (m : Member) (inner : Text) :
    Piece.filled m.valueOfKey (.hole inner) = [] ∨
      ∃ p, Placeholder.ofKey? (trim inner) = some p ∧
        Piece.filled m.valueOfKey (.hole inner) = m.value p := by
  rw [Piece.filled, valueOfKey]
  cases hkey : Placeholder.ofKey? (trim inner) with
  | none => exact .inl rfl
  | some p => exact .inr ⟨p, rfl, rfl⟩

namespace Request

def line (r : Request) (row : List Piece) : Text :=
  r.accessor.finish (r.member.filledRow row)

theorem line_nil (r : Request) : r.line [] = [] := by
  rw [line]
  cases r.accessor <;> rfl

theorem text_eq_joinWith (t : Template) (r : Request) :
    r.text t = joinWith ['\n'] ((Body.rows (t.body r.accessor)).map r.line) := by
  have hfilled := flatMap_intercalate (Piece.filled r.member.valueOfKey) (.char '\n')
    (Body.rows (t.body r.accessor))
  rw [Body.intercalate_rows] at hfilled
  rw [text, Member.filled, hfilled]
  refine (r.accessor.finish_joinWith _).trans ?_
  rw [List.map_map]
  rfl

end Request

namespace Standard

def margin (tabs : Bool) : Text :=
  if tabs then ['\t'] else "    "

def visibilityRow (s : Standard) : Accessor → List Piece
  | .getter => Piece.plain "public"
  | .setter => if s.isTerse then Piece.plain "public" else Piece.fact .visibility

def nameRow (s : Standard) : Accessor → List Piece
  | .getter => Piece.fact .getterVerb ++ Piece.plain s.style.separator ++ Piece.fact .stem
  | .setter =>
    (if s.isTerse then [] else Piece.fact .visibilityMark) ++ Piece.fact .setterVerb ++
      Piece.plain s.style.separator ++ Piece.fact .stem

def signature (s : Standard) (tabs : Bool) (a : Accessor) : List Piece :=
  Piece.plain (margin tabs) ++ s.visibilityRow a ++ Piece.plain " function " ++ s.nameRow a ++
    Piece.plain ['(']

/-- A row that begins, after blanks, with a character that no visibility begins with. -/
def isPlain : List Piece → Bool
  | [] => true
  | .char c :: row => if isBlank c then isPlain row else c.toLower != 'p'
  | .hole _ :: _ => false

/-- A piece that needs a known fact at most, and in terse templates no description. -/
def isKnown (s : Standard) (p : Piece) : Bool :=
  match p.key? with
  | none => true
  | some k => (Placeholder.ofKey? k).isSome && (!s.isTerse || k != Placeholder.description.key)

/-- The rows of a method: the first and the last are empty, some are signatures, and the others
are plain. -/
def isMethod (s : Standard) (tabs : Bool) (a : Accessor) (rows : List (List Piece)) : Bool :=
  rows.head? == some [] && rows.getLast? == some [] && rows.any (s.signature tabs a).isPrefixOf &&
    rows.all fun row => ((s.signature tabs a).isPrefixOf row || isPlain row) && row.all s.isKnown

theorem isTerse_iff (s : Standard) : s.isTerse = true ↔ s.name = psr2.name := by
  cases s <;> decide

theorem isMethod_rows (s : Standard) (tabs : Bool) (a : Accessor) :
    s.isMethod tabs a (Body.rows ((s.template.indented tabs).body a)) = true := by
  cases s <;> cases tabs <;> cases a <;> decide

theorem isKnown_of_mem_pieces {s : Standard} {tabs : Bool} {a : Accessor} {p : Piece}
    (h : p ∈ Body.pieces ((s.template.indented tabs).body a)) : s.isKnown p = true := by
  have hrows := s.isMethod_rows tabs a
  simp only [isMethod, Bool.and_eq_true, List.all_eq_true] at hrows
  rw [← Body.intercalate_rows] at h
  rcases mem_of_mem_intercalate h with hnewline | ⟨row, hrow, hp⟩
  · rw [List.mem_singleton.mp hnewline]
    rfl
  · exact (hrows.2 row hrow).2 p hp

/-- Every standard template is valid. -/
theorem validate_template (s : Standard) : s.template.validate = .ok () := by
  rw [Template.validate_eq_ok_iff]
  have hbody : ∀ a, ∀ k ∈ Body.keys (s.template.body a), (Placeholder.ofKey? k).isSome := by
    intro a k hk
    obtain ⟨p, hp, hkey⟩ := List.mem_filterMap.mp hk
    have hknown := @isKnown_of_mem_pieces s false a p hp
    simp only [isKnown, hkey, Bool.and_eq_true] at hknown
    exact hknown.1
  intro k hk
  rcases List.mem_append.mp hk with hk | hk
  · exact hbody .getter k hk
  · exact hbody .setter k hk

end Standard

namespace Request

/-- A request that a generator over a standard template can make. -/
structure Fits (s : Standard) (r : Request) : Prop where
  name : IsName r.member.name
  style : r.member.style = s.style
  marksPrivate : r.member.marksPrivate = !s.isTerse

def IsSignature (tabs : Bool) (r : Request) (line : Text) : Prop :=
  ∃ (v : Visibility) (rest : Text),
    line = Standard.margin tabs ++ v.keyword ++ " function ".toList ++ r.method ++ '(' :: rest

variable {s : Standard} {r : Request}

theorem filledRow_visibilityRow (s : Standard) (r : Request) :
    ∃ v : Visibility, r.member.filledRow (s.visibilityRow r.accessor) = v.keyword := by
  cases r.accessor with
  | getter => exact ⟨.isPublic, Member.filledRow_plain _ _⟩
  | setter =>
    rw [Standard.visibilityRow]
    split
    · exact ⟨.isPublic, Member.filledRow_plain _ _⟩
    · exact ⟨r.member.visibility, Member.filledRow_fact _ _⟩

theorem Fits.filledRow_nameRow (h : r.Fits s) :
    r.member.filledRow (s.nameRow r.accessor) = r.method := by
  obtain ⟨a, m⟩ := r
  obtain ⟨-, hstyle, hmarks⟩ := h
  dsimp only at hstyle hmarks ⊢
  cases a with
  | getter =>
    simp only [Standard.nameRow, Member.filledRow_append, Member.filledRow_fact,
      Member.filledRow_plain, method, Member.getterName, hstyle]
    rfl
  | setter =>
    have hmark : m.filledRow (if s.isTerse then [] else Piece.fact .visibilityMark) =
        if m.marksPrivate then m.visibilityMark else [] := by
      rw [hmarks]
      cases s.isTerse with
      | false => exact m.filledRow_fact .visibilityMark
      | true => rfl
    simp only [Standard.nameRow, Member.filledRow_append, Member.filledRow_fact,
      Member.filledRow_plain, method, Member.setterName, hstyle, hmark]
    rfl

theorem Fits.isSignature_line (h : r.Fits s) {tabs : Bool} {row : List Piece}
    (hrow : s.signature tabs r.accessor <+: row) : r.IsSignature tabs (r.line row) := by
  obtain ⟨rest, rfl⟩ := hrow
  obtain ⟨v, hv⟩ := r.filledRow_visibilityRow s
  have hopen : '(' ∉ Standard.margin tabs ++ v.keyword ++ " function ".toList ++ r.method := by
    have hmargin : '(' ∉ Standard.margin tabs := by cases tabs <;> decide
    have hkeyword : '(' ∉ v.keyword := by cases v <;> decide
    have hmethod : '(' ∉ r.method := (isName_method h.name).notMem (by decide)
    simp [hmargin, hkeyword, hmethod]
  simp only [line, Standard.signature, Member.filledRow_append, Member.filledRow_plain, hv,
    h.filledRow_nameRow, List.append_assoc, List.singleton_append]
  cases r.accessor with
  | getter => exact ⟨v, r.member.filledRow rest, by simp [Accessor.finish]⟩
  | setter =>
    obtain ⟨t, ht⟩ := Body.exists_closeGaps_parenthesis (r.member.filledRow rest)
    refine ⟨v, t, ?_⟩
    rw [← ht, ← Body.closeGaps_append_of_notMem hopen]
    simp [Accessor.finish]

/-- The code of a request declares the requested method, wherever it stands. -/
theorem Fits.declares_text (h : r.Fits s) (tabs : Bool) (before after : Text) :
    Method.declares (before ++ r.text (s.template.indented tabs) ++ after) r.method = true := by
  have hmethod := s.isMethod_rows tabs r.accessor
  simp only [Standard.isMethod, Bool.and_eq_true, List.any_eq_true] at hmethod
  obtain ⟨⟨-, row, hmem, hrow⟩, -⟩ := hmethod
  obtain ⟨v, rest, hline⟩ := h.isSignature_line (List.isPrefixOf_iff_prefix.mp hrow)
  obtain ⟨a, b, hab⟩ :=
    @exists_joinWith_eq_append ['\n'] _ _ (List.mem_map_of_mem (f := r.line) hmem)
  rw [text_eq_joinWith, hab, hline]
  have hpart := @Method.declares_of_part r.method (a ++ Standard.margin tabs ++ v.keyword ++ [' '])
    (rest ++ b) before after (by simp) (by simp [Method.EndsWord]; decide)
  simpa using hpart

/-- The code of requests declares each requested method, wherever it stands. -/
theorem declares_flatMap {rs : List Request} (hr : r ∈ rs) (h : r.Fits s) (tabs : Bool)
    (before after : Text) :
    Method.declares (before ++ rs.flatMap (text (s.template.indented tabs)) ++ after) r.method =
      true := by
  obtain ⟨rs₁, rs₂, rfl⟩ := List.append_of_mem hr
  have hdeclares := h.declares_text tabs
    (before ++ rs₁.flatMap (text (s.template.indented tabs)))
    (rs₂.flatMap (text (s.template.indented tabs)) ++ after)
  simpa using hdeclares

end Request

namespace Generator

variable {s : Standard} {tabs : Bool} {options : Options} {source : Text} {kind : Kind}
  {selection : Selection}

theorem fits_of_mem_members {r : Request}
    (h : r.member ∈ (s.generator tabs options).members source) : r.Fits s := by
  obtain ⟨d, -, hd⟩ := List.mem_map.mp h
  refine ⟨isName_of_mem_members h, ?_, ?_⟩
  · rw [← hd]
    cases tabs <;> rfl
  · rw [← hd]
    cases tabs <;> rfl

theorem fits_of_mem_requests {r : Request}
    (h : r ∈ (s.generator tabs options).requests source kind selection) : r.Fits s :=
  fits_of_mem_members (List.mem_filter.mp (mem_requests h)).1

/-- A source declares every method whose code has been put into it. -/
theorem declares_of_mem_emitted {n : Text}
    (h : n ∈ ((s.generator tabs options).outcome source kind selection).emitted)
    (before after : Text) :
    Method.declares
      (before ++ ((s.generator tabs options).outcome source kind selection).code ++ after) n =
        true := by
  obtain ⟨r, hr, rfl⟩ := List.mem_map.mp h
  exact Request.declares_flatMap hr (fits_of_mem_requests (Batch.mem_fresh hr).1) tabs before after

end Generator

end Accessors

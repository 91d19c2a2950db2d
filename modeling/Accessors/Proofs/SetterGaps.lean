import Accessors.Proofs.StandardCode

/-!
# Gaps in setters

A setter without a type hint would have a space between its parenthesis and its parameter. That
space is removed from the finished code, and with it every other space behind an opening
parenthesis, also one in a comment. So the rest of a setter is kept only if the facts it quotes
have no such gaps.
-/

namespace Accessors

namespace Body

def hasGap (t : Text) : Bool :=
  Text.occursIn ['(', ' '] t

theorem hasGap_cons_iff {c : Char} {t : Text} :
    hasGap (c :: t) = false ↔ (c = '(' → t.head? ≠ some ' ') ∧ hasGap t = false := by
  have hfirst : ['(', ' '].isPrefixOf (c :: t) = true ↔ c = '(' ∧ t.head? = some ' ' := by
    rw [List.isPrefixOf_iff_prefix, List.cons_prefix_cons, eq_comm]
    cases t with
    | nil => simp
    | cons d t => simp [List.cons_prefix_cons, @eq_comm Char ' ']
  rw [hasGap, Text.occursIn, Bool.or_eq_false_iff, ← Bool.not_eq_true, hfirst, not_and]
  rfl

theorem hasGap_cons_of_ne {c : Char} (h : c ≠ '(') (t : Text) : hasGap (c :: t) = hasGap t := by
  rw [Bool.eq_iff_iff, ← not_iff_not, Bool.not_eq_true, Bool.not_eq_true, hasGap_cons_iff]
  simp [h]

theorem hasGap_eq_false_of_notMem {t : Text} (h : '(' ∉ t) : hasGap t = false := by
  induction t with
  | nil => rfl
  | cons c t ih =>
    obtain ⟨hc, ht⟩ := List.ne_and_not_mem_of_not_mem_cons h
    rw [hasGap_cons_of_ne (Ne.symm hc), ih ht]

/-- Texts put together have the gaps of both, and one at the seam. -/
theorem hasGap_append_iff {a b : Text} :
    hasGap (a ++ b) = false ↔
      hasGap a = false ∧ hasGap b = false ∧ (a.getLast? = some '(' → b.head? ≠ some ' ') := by
  induction a with
  | nil => simp [hasGap, Text.occursIn]
  | cons c a ih =>
    rw [List.cons_append, hasGap_cons_iff, hasGap_cons_iff, ih]
    cases a with
    | nil =>
      have hnil : hasGap [] = false := rfl
      simp only [List.nil_append, List.head?_nil, List.getLast?_nil, List.getLast?_singleton,
        Option.some.injEq, hnil]
      tauto
    | cons d a =>
      rw [List.getLast?_cons_cons]
      simp only [List.cons_append, List.head?_cons]
      tauto

theorem length_closeGaps_le (t : Text) : (closeGaps t).length ≤ t.length := by
  fun_induction closeGaps t with
  | case1 t ih =>
    simp only [List.length_cons]
    omega
  | case2 c t hne ih =>
    simp only [List.length_cons]
    omega
  | case3 => exact Nat.le_refl _

theorem closeGaps_eq_self_iff {t : Text} : closeGaps t = t ↔ hasGap t = false := by
  fun_induction closeGaps t with
  | case1 t ih =>
    constructor
    · intro h
      have hlength := congrArg List.length h
      have hle := length_closeGaps_le t
      simp only [List.length_cons] at hlength
      omega
    · intro h
      exact absurd rfl ((hasGap_cons_iff.mp h).1 rfl)
  | case2 c t hne ih =>
    rw [List.cons.injEq, ih, hasGap_cons_iff]
    refine ⟨fun h => ⟨fun hc ht => ?_, h.2⟩, fun h => ⟨rfl, h.2⟩⟩
    obtain ⟨u, rfl⟩ := List.head?_eq_some_iff.mp ht
    exact hne u hc rfl
  | case3 => simp [hasGap, Text.occursIn]

/-- Closing gaps keeps both of two texts if it keeps them with something between. -/
theorem closeGaps_beside_iff {a b w : Text} :
    closeGaps a ++ (w ++ closeGaps b) = a ++ (w ++ b) ↔ hasGap a = false ∧ hasGap b = false := by
  rw [← closeGaps_eq_self_iff, ← closeGaps_eq_self_iff]
  constructor
  · intro h
    have hlength := congrArg List.length h
    have ha := length_closeGaps_le a
    have hb := length_closeGaps_le b
    simp only [List.length_append] at hlength
    obtain ⟨hfirst, hrest⟩ := List.append_inj h (by omega)
    exact ⟨hfirst, List.append_cancel_left hrest⟩
  · rintro ⟨ha, hb⟩
    rw [ha, hb]

/-- A hint and the space behind it, which an empty hint does not keep. -/
def hintClosed (hint : Text) : Text :=
  if hint = [] then [] else hint ++ [' ']

/-- Closing the gaps of a setter closes the gap of an empty hint. It does nothing else just if there
is no other gap. -/
theorem closeGaps_setter_iff {a hint b : Text} :
    closeGaps (a ++ '(' :: (hint ++ ' ' :: '$' :: b)) =
        a ++ '(' :: (hintClosed hint ++ '$' :: b) ↔
      hasGap a = false ∧ hasGap b = false ∧
        (hint ≠ [] → hasGap ('(' :: (hint ++ [' '])) = false) := by
  by_cases hhint : hint = []
  · subst hhint
    have hclosed : closeGaps ('(' :: ' ' :: '$' :: b) = ['(', '$'] ++ closeGaps b := by
      rw [closeGaps, closeGaps_cons (.inl (by decide))]
      rfl
    rw [List.nil_append, closeGaps_append (by simp), hclosed]
    simpa [hintClosed] using @closeGaps_beside_iff a b ['(', '$']
  · have hparts : a ++ '(' :: (hint ++ ' ' :: '$' :: b) =
        a ++ ('(' :: (hint ++ [' ']) ++ '$' :: b) := by simp
    have hsame : a ++ '(' :: (hintClosed hint ++ '$' :: b) =
        a ++ ('(' :: (hint ++ [' ']) ++ '$' :: b) := by simp [hintClosed, hhint]
    have hends : ∀ {x y : Text}, x = '(' :: y ∨ x = '$' :: y → x.head? ≠ some ' ' := by
      rintro x y (rfl | rfl) <;> simp
    rw [hparts, hsame, closeGaps_eq_self_iff, hasGap_append_iff, hasGap_append_iff,
      hasGap_cons_of_ne (by decide : '$' ≠ '(')]
    constructor
    · rintro ⟨ha, ⟨hh, hb, -⟩, -⟩
      exact ⟨ha, hb, fun _ => hh⟩
    · rintro ⟨ha, hb, hh⟩
      exact ⟨ha, ⟨hh hhint, hb, fun _ => hends (.inr rfl)⟩, fun _ => hends (.inl rfl)⟩

end Body

/-- The facts that never hold a parenthesis. -/
def Placeholder.isFixed (p : Placeholder) : Bool :=
  p == .visibility || p == .visibilityMark || p == .getterVerb || p == .setterVerb

theorem Member.parenthesis_notMem_value (m : Member) {p : Placeholder} (h : p.isFixed = true) :
    '(' ∉ m.value p := by
  have hkeyword : '(' ∉ m.visibility.keyword := by cases m.visibility <;> decide
  cases p with
  | visibility => exact hkeyword
  | visibilityMark => exact m.isName_visibilityMark.notMem (by decide)
  | getterVerb => exact m.isName_getterVerb.notMem (by decide)
  | setterVerb => exact m.isName_setterVerb.notMem (by decide)
  | _ => cases h

namespace Piece

/-- The space with which pieces begin, if they do. -/
def spaceAhead (ps : List Piece) : Text :=
  if ps.head? = some (.char ' ') then [' '] else []

/-- The facts that pieces quote, each with the space that follows it. -/
def quotations : List Piece → List (Placeholder × Text)
  | [] => []
  | char _ :: ps => quotations ps
  | hole inner :: ps =>
    ((Placeholder.ofKey? (Text.trim inner)).toList.map fun p => (p, spaceAhead ps)) ++ quotations ps

/-- Pieces without parentheses, in which no fact but a fixed one meets another fact. -/
def isApart : List Piece → Bool
  | [] => true
  | char c :: ps => c != '(' && isApart ps
  | hole inner :: ps =>
    ((Placeholder.ofKey? (Text.trim inner)).all Placeholder.isFixed ||
        ps.head?.all fun p => p.key?.isNone) &&
      isApart ps

end Piece

namespace Member

open Body Piece

variable (m : Member)

theorem head?_filledRow {ps : List Piece} (h : (ps.head?.all fun p => p.key?.isNone) = true) :
    (m.filledRow ps).head? = some ' ' ↔ (spaceAhead ps).head? = some ' ' := by
  cases ps with
  | nil => simp [filledRow, spaceAhead]
  | cons p ps =>
    cases p with
    | hole inner => cases h
    | char c =>
      rw [spaceAhead]
      by_cases hc : c = ' ' <;> simp [filledRow, Piece.filled, hc]

/-- A fact and the space after it have the gaps that the fact has in its place. -/
theorem hasGap_quoted_iff {p : Placeholder} {ps : List Piece}
    (h : p.isFixed = true ∨ (ps.head?.all fun q => q.key?.isNone) = true) :
    hasGap (m.value p ++ m.filledRow ps) = false ↔
      hasGap (m.value p ++ spaceAhead ps) = false ∧ hasGap (m.filledRow ps) = false := by
  have hspace : hasGap (spaceAhead ps) = false := by
    rw [spaceAhead]
    split <;> rfl
  rw [hasGap_append_iff, hasGap_append_iff]
  have hseam : (m.value p).getLast? = some '(' →
      ((m.filledRow ps).head? = some ' ' ↔ (spaceAhead ps).head? = some ' ') := by
    intro hlast
    rcases h with hfixed | hnext
    · exact absurd (List.mem_of_getLast? hlast) (m.parenthesis_notMem_value hfixed)
    · exact m.head?_filledRow hnext
  constructor
  · rintro ⟨hvalue, hrest, hends⟩
    exact ⟨⟨hvalue, hspace, fun hl => (not_congr (hseam hl)).mp (hends hl)⟩, hrest⟩
  · rintro ⟨⟨hvalue, -, hends⟩, hrest⟩
    exact ⟨hvalue, hrest, fun hl => (not_congr (hseam hl)).mpr (hends hl)⟩

/-- Filled pieces have no gaps but those of the facts that they quote. -/
theorem hasGap_filledRow_iff {ps : List Piece} (h : isApart ps = true) :
    hasGap (m.filledRow ps) = false ↔
      ∀ q ∈ quotations ps, hasGap (m.value q.1 ++ q.2) = false := by
  induction ps with
  | nil => simp [filledRow, quotations, hasGap, Text.occursIn]
  | cons p ps ih =>
    cases p with
    | char c =>
      simp only [isApart, Bool.and_eq_true, bne_iff_ne] at h
      have hrow : m.filledRow (.char c :: ps) = c :: m.filledRow ps := rfl
      rw [hrow, hasGap_cons_of_ne h.1, ih h.2, quotations]
    | hole inner =>
      simp only [isApart, Bool.and_eq_true, Bool.or_eq_true] at h
      have hrow : m.filledRow (.hole inner :: ps) =
          ((Placeholder.ofKey? (Text.trim inner)).map m.value).getD [] ++ m.filledRow ps := rfl
      rw [hrow, quotations]
      cases hkey : Placeholder.ofKey? (Text.trim inner) with
      | none => exact ih h.2
      | some p =>
        rw [hkey] at h
        rw [Option.map_some, Option.getD_some, m.hasGap_quoted_iff h.1, ih h.2]
        simp

end Member

namespace Standard

/-- The facts that a setter quotes beside its hint, each with the space that follows it in one of
its places. -/
def setterQuotes (s : Standard) : List (Placeholder × Text) :=
  [(.type, [' ']), (.name, [' ']), (.stem, [])] ++
    if s.isTerse then []
    else [(.description, []), (.param, [' ']), (parameterWord s.style, [])]

/-- Whether the facts found are those listed, fixed facts and missing spaces apart. -/
def quotesJust (listed found : List (Placeholder × Text)) : Bool :=
  (listed.all fun q => found.contains q) &&
    found.all fun q =>
      q.1.isFixed && !Body.hasGap q.2 ||
        listed.any fun q' => q.1 == q'.1 && (q.2 == q'.2 || q.2 == [])

/-- A setter's body is cut by its hint into two parts, which quote the facts of the setter. -/
def CutByHint (s : Standard) (setter opening rest : Text) : Prop :=
  setter = opening ++ '(' :: (Placeholder.typeHint.mark ++ ' ' :: '$' :: rest) ∧
    Body.pieces setter = Body.pieces opening ++
      (Piece.plain ['('] ++ Piece.fact .typeHint ++ Piece.plain [' ', '$'] ++ Body.pieces rest) ∧
    Piece.isApart (Body.pieces opening) = true ∧ Piece.isApart (Body.pieces rest) = true ∧
    quotesJust s.setterQuotes
      (Piece.quotations (Body.pieces opening) ++ Piece.quotations (Body.pieces rest)) = true

instance (s : Standard) (setter opening rest : Text) :
    Decidable (s.CutByHint setter opening rest) :=
  inferInstanceAs (Decidable (_ ∧ _ ∧ _ ∧ _ ∧ _))

/-- The first parenthesis of a setter's body is that of its signature. -/
theorem exists_cutByHint (s : Standard) (tabs : Bool) :
    ∃ opening rest, s.CutByHint (s.template.indented tabs).setter opening rest := by
  refine ⟨(s.template.indented tabs).setter.takeWhile (· != '('),
    ((s.template.indented tabs).setter.dropWhile (· != '(')).drop
      (Placeholder.typeHint.mark.length + 3), ?_⟩
  cases s <;> cases tabs <;> decide +kernel

theorem forall_quotes_iff {listed found : List (Placeholder × Text)}
    (h : quotesJust listed found = true) (m : Member) :
    (∀ q ∈ found, Body.hasGap (m.value q.1 ++ q.2) = false) ↔
      ∀ q ∈ listed, Body.hasGap (m.value q.1 ++ q.2) = false := by
  simp only [quotesJust, Bool.and_eq_true, List.all_eq_true, Bool.or_eq_true, List.any_eq_true,
    List.contains_iff_mem, beq_iff_eq, Bool.not_eq_true'] at h
  obtain ⟨hlisted, hfound⟩ := h
  constructor
  · exact fun hq q hmem => hq q (hlisted q hmem)
  · intro hq q hmem
    rcases hfound q hmem with ⟨hfixed, hspace⟩ | ⟨q', hmem', hplace, hspace⟩
    · have hvalue := m.parenthesis_notMem_value hfixed
      exact Body.hasGap_append_iff.mpr ⟨Body.hasGap_eq_false_of_notMem hvalue, hspace,
        fun hlast => absurd (List.mem_of_getLast? hlast) hvalue⟩
    · have hq' := hq q' hmem'
      rw [← hplace] at hq'
      rcases hspace with hsame | hnone
      · rwa [hsame]
      · rw [hnone, List.append_nil]
        exact (Body.hasGap_append_iff.mp hq').1

end Standard

/-- A member whose facts have no gaps where the setter of a template quotes them. -/
structure Member.Gapless (s : Standard) (m : Member) : Prop where
  quotes : ∀ q ∈ s.setterQuotes, Body.hasGap (m.value q.1 ++ q.2) = false
  hint : m.hint.text ≠ [] → Body.hasGap ('(' :: (m.hint.text ++ [' '])) = false

namespace Standard.CutByHint

variable {s : Standard} {setter opening rest : Text}

theorem filled_setter (h : s.CutByHint setter opening rest) (m : Member) :
    m.filled setter =
      m.filled opening ++ '(' :: (m.hint.text ++ ' ' :: '$' :: m.filled rest) := by
  obtain ⟨-, hpieces, -⟩ := h
  change m.filledRow (Body.pieces setter) = _
  rw [hpieces]
  simp only [Member.filledRow_append, Member.filledRow_plain, Member.filledRow_fact, Member.value,
    List.append_assoc, List.cons_append, List.nil_append]
  rfl

theorem closeGaps_iff (h : s.CutByHint setter opening rest) (m : Member) :
    Body.closeGaps (m.filled setter) =
        m.filled opening ++ '(' :: (Body.hintClosed m.hint.text ++ '$' :: m.filled rest) ↔
      m.Gapless s := by
  rw [h.filled_setter]
  obtain ⟨-, -, hopening, hrest, hquotes⟩ := h
  have hfacts : Body.hasGap (m.filled opening) = false ∧ Body.hasGap (m.filled rest) = false ↔
      ∀ q ∈ s.setterQuotes, Body.hasGap (m.value q.1 ++ q.2) = false := by
    rw [← forall_quotes_iff hquotes m, List.forall_mem_append]
    exact and_congr (m.hasGap_filledRow_iff hopening) (m.hasGap_filledRow_iff hrest)
  rw [Body.closeGaps_setter_iff, ← and_assoc, hfacts]
  exact ⟨fun hg => ⟨hg.1, hg.2⟩, fun hg => ⟨hg.quotes, hg.hint⟩⟩

end Standard.CutByHint

/-- The setter of a standard template is its body filled, less the space that an empty hint leaves
between the parenthesis and the parameter, just if no fact that the setter quotes has a gap. -/
theorem setter_closes_hint_only_iff (s : Standard) (tabs : Bool) (m : Member) :
    ∃ opening rest : Text,
      (s.template.indented tabs).setter =
          opening ++ '(' :: (Placeholder.typeHint.mark ++ ' ' :: '$' :: rest) ∧
        Template.render s.name m.valueOfKey (s.template.indented tabs).setter =
          .ok (m.filled opening ++ '(' :: (m.hint.text ++ ' ' :: '$' :: m.filled rest)) ∧
        (m.renderSetter (s.template.indented tabs) =
            .ok (m.filled opening ++ '(' :: (Body.hintClosed m.hint.text ++ '$' :: m.filled rest)) ↔
          m.Gapless s) := by
  obtain ⟨opening, rest, hcut⟩ := s.exists_cutByHint tabs
  have hvalid :=
    Template.validate_eq_ok_iff.mp (Template.validate_indented tabs s.validate_template)
  have hrender := m.render_eq_ok (fun k hk => hvalid k (List.mem_append_right _ hk)) s.name
  have hname : (s.template.indented tabs).name = s.name := by cases tabs <;> rfl
  refine ⟨opening, rest, hcut.1, by rw [hrender, hcut.filled_setter], ?_⟩
  rw [Member.renderSetter, hname, hrender, ← hcut.closeGaps_iff m]
  change Except.ok _ = Except.ok _ ↔ _
  rw [Except.ok.injEq]

def countMember : Member where
  name := "count"
  visibility := .isPrivate
  declaredType := "int"
  description := "Number of rows ( all of them )"
  hint := .given "int"
  line := 6
  style := .camel
  marksPrivate := true

def countedClass : Text :=
  "class Table \x7b\n    /**\n     * Number of rows ( all of them )\n     * @var int\n     */\n" ++
    "    private $count;\n\x7d\n"

/-- The setter of this member has a hint, and its comment loses a space all the same. -/
theorem countMember_setter_loses_space :
    (Standard.camelCase.generator false {}).members countedClass = [countMember] ∧
      countMember.hint.text ≠ [] ∧
      countMember.renderSetter Standard.camelCase.template ≠
        Template.render Standard.camelCase.name countMember.valueOfKey
          Standard.camelCase.template.setter := by
  refine ⟨?_, ?_, ?_⟩ <;> decide +kernel

end Accessors

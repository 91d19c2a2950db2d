import Accessors.Proofs.InertCode
import Accessors.Proofs.QuotedFacts

/-!
# The methods that generated code declares

Punctuation cuts the code of a standard template into passages, and a declaration lies within one
of them. A passage is silent, or quotes a fact from the source, or is the signature of the method.
So the code declares the requested method, and otherwise at most what the source declares already.
-/

namespace Accessors

open Text

/-- Punctuation at which the code of a template is cut. -/
def isCut (c : Char) : Bool :=
  ['/', '*', '.', '$', ')', '\x7d'].contains c

namespace Method

variable {n a b : Text}

theorem bars_of_isCut (hn : IsName n) {c : Char} (hc : isCut c = true) : Bars n c := by
  simp only [isCut, List.contains_iff_mem, List.mem_cons, List.not_mem_nil, or_false] at hc
  rcases hc with rfl | rfl | rfl | rfl | rfl | rfl <;>
    exact bars_of_isName hn (by decide) (by decide) (by decide) (by decide)

theorem declares_cut (hn : IsName n) {c : Char} (hc : isCut c = true)
    (h : declares (a ++ c :: b) n = true) : declares a n = true ∨ declares b n = true := by
  refine declares_append_cons (bars_of_isCut hn hc) ?_ h
  rintro rfl
  cases hc

/-- Closed gaps add no declaration: they stand behind a parenthesis, where a declaration has
ended and none has begun. -/
theorem declares_of_closeGaps (hn : IsName n) (a t : Text)
    (h : declares (a ++ Body.closeGaps t) n = true) : declares (a ++ t) n = true := by
  fun_induction Body.closeGaps t generalizing a with
  | case1 t ih =>
    rcases declares_append_parenthesis (bars_parenthesis hn) h with hopen | hrest
    · have hstands : StandsIn (a ++ ['(']) (a ++ '(' :: ' ' :: t) :=
        ⟨[], ' ' :: t, by simp, endsWord_nil⟩
      exact hstands.declares hopen
    · have hstands : StandsIn t (a ++ '(' :: ' ' :: t) :=
        ⟨a ++ ['('] ++ [' '], [], by simp, endsWord_concat (by decide) _⟩
      exact hstands.declares (ih [] hrest)
  | case2 c t hne ih =>
    have hrest : declares (a ++ [c] ++ Body.closeGaps t) n = true := by simpa using h
    simpa using ih (a ++ [c]) hrest
  | case3 => exact h

end Method

def Piece.isCut : Piece → Bool
  | char c => Accessors.isCut c
  | hole _ => false

/-- A declaration in filled pieces lies within a passage; the first follows what stands before. -/
theorem Member.exists_passage {n : Text} (hn : IsName n) (m : Member) (a : Text) (ps : List Piece)
    (h : Method.declares (a ++ m.filledRow ps) n = true) :
    ∃ first rest, ps.splitOnP Piece.isCut = first :: rest ∧
      (Method.declares (a ++ m.filledRow first) n = true ∨
        ∃ passage ∈ rest, Method.declares (m.filledRow passage) n = true) := by
  induction ps generalizing a with
  | nil => exact ⟨[], [], by simp, .inl h⟩
  | cons p ps ih =>
    rw [List.splitOnP_cons_eq_if_modifyHead]
    by_cases hp : p.isCut = true
    · rw [if_pos hp]
      refine ⟨[], _, rfl, ?_⟩
      cases p with
      | hole inner => cases hp
      | char c =>
        rcases Method.declares_cut hn hp h with hbefore | hafter
        · exact .inl (by simpa [filledRow] using hbefore)
        · obtain ⟨first, rest, hsplit, hpassage⟩ := ih [] hafter
          right
          rw [hsplit]
          rcases hpassage with hfirst | ⟨passage, hmem, hpassage⟩
          · exact ⟨first, List.mem_cons_self, hfirst⟩
          · exact ⟨passage, List.mem_cons_of_mem first hmem, hpassage⟩
    · rw [if_neg hp]
      have hrest : Method.declares (a ++ m.filledRow [p] ++ m.filledRow ps) n = true := by
        simpa [filledRow] using h
      obtain ⟨first, rest, hsplit, hpassage⟩ := ih (a ++ m.filledRow [p]) hrest
      refine ⟨p :: first, rest, by rw [hsplit]; rfl, hpassage.imp_left fun hfirst => ?_⟩
      simpa [filledRow] using hfirst

namespace Standard

/-- The facts that a doc comment gives. -/
def isQuoted (p : Placeholder) : Bool :=
  p == .type || p == .typeHint || p == .description

/-- A passage without a parenthesis and without quoted facts. -/
def isSilent (passage : List Piece) : Bool :=
  passage.all fun
    | .char c => c != '('
    | .hole inner => (Placeholder.ofKey? (trim inner)).all (!isQuoted ·)

/-- A passage in which no declaration begins before its quoted fact, and none ends after it.
Terse templates do not quote descriptions. -/
def isQuotation (s : Standard) : List Piece → Bool
  | [] => false
  | .char c :: passage => c.toLower != 'f' && isQuotation s passage
  | .hole inner :: passage =>
    (Placeholder.ofKey? (trim inner)).all
        (fun p => isQuoted p && (!s.isTerse || p != .description)) &&
      isSilent passage

def isSignature (s : Standard) (tabs : Bool) (a : Accessor) (passage : List Piece) : Bool :=
  let signature := Piece.plain ['\n'] ++ s.signature tabs a
  passage == signature || passage == signature ++ Piece.fact .typeHint ++ Piece.plain [' ']

/-- The passages of a method: the first is silent, and each other one is silent, a quotation or
the signature. -/
def hasPassages (s : Standard) (tabs : Bool) (a : Accessor) : List (List Piece) → Bool
  | [] => false
  | first :: rest =>
    isSilent first &&
      rest.all fun passage =>
        isSilent passage || s.isQuotation passage || s.isSignature tabs a passage

theorem hasPassages_pieces (s : Standard) (tabs : Bool) (a : Accessor) :
    s.hasPassages tabs a
      ((Body.pieces ((s.template.indented tabs).body a)).splitOnP Piece.isCut) = true := by
  cases s <;> cases tabs <;> cases a <;> decide

end Standard

namespace Method

variable {n m : Text}

theorem declares_eq_false_of_isSpace {t : Text} (h : ∀ c ∈ t, isSpace c = false) (n : Text) :
    declares t n = false := by
  rw [Bool.eq_false_iff]
  intro hd
  obtain ⟨p, d, rest, rfl, ⟨keyword, gap, mark, method, pad, -, hgap, hspace, -⟩, -⟩ :=
    declares_iff.mp hd
  obtain ⟨c, hc⟩ := List.exists_mem_of_ne_nil gap hgap
  have hnot := h c (by simp [hc])
  rw [hspace c hc] at hnot
  cases hnot

/-- A spelling that begins where the signature of a method does is a spelling of that method. -/
theorem Spelling.eq_of_signature {d rest : Text} (hspace : ∀ c ∈ m, isSpace c = false)
    (hmark : '&' ∉ m) (hopen : '(' ∉ m) (hd : Spelling n d)
    (h : functionKeyword ++ ' ' :: (m ++ ['(']) = d ++ rest) : m.map fold = n.map fold := by
  obtain ⟨keyword, gap, mark, method, pad, hk, hg, hs, hmark', hmethod, hp⟩ := hd
  have hlength : functionKeyword.length = keyword.length := by rw [← hk, List.length_map]
  simp only [List.append_assoc, List.singleton_append] at h
  obtain ⟨-, hafter⟩ := List.append_inj h hlength
  have hnospace : ∀ c ∈ m ++ ['('], isSpace c = false := by
    simpa [or_imp, forall_and, isSpace_parenthesis] using hspace
  -- The gap is the one space, there is no mark, and the padding is empty.
  cases gap with
  | nil => exact absurd rfl hg
  | cons c gap =>
    obtain ⟨-, hafter⟩ := List.cons.inj hafter
    change m ++ ['('] = gap ++ (mark ++ (method ++ (pad ++ '(' :: rest))) at hafter
    have hgap : gap = [] := by
      rw [List.eq_nil_iff_forall_not_mem]
      intro e he
      have hnot := hnospace e (hafter ▸ List.mem_append_left _ he)
      rw [hs e (List.mem_cons_of_mem c he)] at hnot
      cases hnot
    have hmark'' : mark = [] := by
      rcases hmark' with rfl | rfl
      · rfl
      · have hmem : '&' ∈ m ++ ['('] := by simp [hafter]
        simp [hmark] at hmem
    have hpad : pad = [] := by
      rw [List.eq_nil_iff_forall_not_mem]
      intro e he
      have hnot := hnospace e (by simp [hafter, he])
      rw [hp e he] at hnot
      cases hnot
    rw [hgap, hmark'', hpad, List.nil_append, List.nil_append, List.nil_append] at hafter
    rw [← hmethod]
    rcases List.append_eq_append_iff.mp hafter with ⟨x, rfl, hx⟩ | ⟨x, rfl, hx⟩
    · cases x with
      | nil => rw [List.append_nil]
      | cons e x => simp at hx
    · cases x with
      | nil => rw [List.append_nil]
      | cons e x =>
        obtain ⟨rfl, -⟩ := List.cons.inj hx
        simp at hopen

/-- A signature declares its method and no other. -/
theorem eq_of_declares_signature {a : Text} (ha : a.all (·.toLower != 'f') = true)
    (hspace : ∀ c ∈ m, isSpace c = false) (hmark : '&' ∉ m) (hopen : '(' ∉ m)
    (h : declares (a ++ (functionKeyword ++ ' ' :: (m ++ ['(']))) n = true) :
    m.map fold = n.map fold := by
  have hkeyword : functionKeyword = 'f' :: ['u', 'n', 'c', 't', 'i', 'o', 'n'] := by decide
  obtain ⟨p, d, rest, hs, hd, hp⟩ := declares_iff.mp (declares_of_append_left ha h)
  cases p with
  | nil => exact hd.eq_of_signature hspace hmark hopen hs
  | cons e p =>
    -- Behind its first letter the keyword has no other like it, and the name has no white space.
    rw [hkeyword] at hs
    have hp' : EndsWord ([e] ++ p) := hp
    have hrest : declares (['u', 'n', 'c', 't', 'i', 'o', 'n', ' '] ++ (m ++ ['('])) n = true :=
      declares_iff.mpr ⟨p, d, rest, (List.cons.inj hs).2, hd, hp'.of_append⟩
    have hname := declares_of_append_left (by decide) hrest
    rw [declares_eq_false_of_isSpace] at hname
    · cases hname
    · simpa [or_imp, forall_and, isSpace_parenthesis] using hspace

end Method

namespace Standard

variable {s : Standard} {m : Member} {passage : List Piece} {n : Text}

theorem parenthesis_notMem_of_isSilent (hname : IsName m.name) (h : isSilent passage = true) :
    '(' ∉ m.filledRow passage := by
  intro hmem
  obtain ⟨p, hp, hc⟩ := List.mem_flatMap.mp hmem
  have hsilent := List.all_eq_true.mp h p hp
  cases p with
  | char c =>
    rw [Piece.filled, List.mem_singleton] at hc
    simp [← hc] at hsilent
  | hole inner =>
    rcases m.filled_hole_cases inner with hnil | ⟨q, hkey, hvalue⟩
    · rw [hnil] at hc
      cases hc
    · rw [hvalue] at hc
      simp only [hkey, Option.all_some, isQuoted, Bool.not_eq_true', Bool.or_eq_false_iff,
        beq_eq_false_iff_ne] at hsilent
      rcases Member.eq_space_or_isNameChar_of_mem_value hname hsilent.1.1 hsilent.1.2 hsilent.2 hc
        with hspace | hname
      · cases hspace
      · cases hname

/-- A quotation declares at most what the quoted fact declares. -/
theorem exists_of_declares_quotation (hname : IsName m.name) (h : s.isQuotation passage = true)
    (hd : Method.declares (m.filledRow passage) n = true) :
    ∃ p, isQuoted p = true ∧ (s.isTerse = true → p ≠ .description) ∧
      Method.declares (m.value p) n = true := by
  induction passage with
  | nil => cases h
  | cons q passage ih =>
    cases q with
    | char c =>
      rw [isQuotation, Bool.and_eq_true, bne_iff_ne] at h
      exact ih h.2 (Method.declares_of_append_left (a := [c]) (by simpa using h.1) hd)
    | hole inner =>
      rw [isQuotation, Bool.and_eq_true] at h
      have hfact := Method.declares_of_append_right (parenthesis_notMem_of_isSilent hname h.2) hd
      rcases m.filled_hole_cases inner with hnil | ⟨p, hkey, hvalue⟩
      · rw [hnil] at hfact
        cases hfact
      · rw [hvalue] at hfact
        simp only [hkey, Option.all_some, Bool.and_eq_true, Bool.or_eq_true, Bool.not_eq_true',
          bne_iff_ne] at h
        refine ⟨p, h.1.1, fun hterse => ?_, hfact⟩
        rcases h.1.2 with hverbose | hne
        · rw [hterse] at hverbose
          cases hverbose
        · exact hne

end Standard

theorem Generator.declares_of_hint {g : Generator} {source n : Text} {m : Member}
    (h : m ∈ g.members source) (hd : Method.declares m.hint.text n = true) :
    Method.declares source n = true := by
  rcases hint_of_mem_members h with hhint | hhint
  · rw [hhint] at hd
    cases hd
  · rw [hhint] at hd
    exact declares_of_declaredType h hd

namespace Request

variable {s : Standard} {r : Request} {tabs : Bool} {passage : List Piece} {n : Text}

/-- The passage of the signature declares the requested method, and otherwise at most what the
type hint declares. -/
theorem Fits.of_declares_signature (h : r.Fits s) (hn : IsName n)
    (hpassage : s.isSignature tabs r.accessor passage = true)
    (hd : Method.declares (r.member.filledRow passage) n = true) :
    r.method.map fold = n.map fold ∨ Method.declares r.member.hint.text n = true := by
  obtain ⟨v, hv⟩ := r.filledRow_visibilityRow s
  have hmethod := isName_method h.name
  have hopening :
      ('\n' :: Standard.margin tabs ++ v.keyword ++ [' ']).all (·.toLower != 'f') = true := by
    cases tabs <;> cases v <;> decide
  have hsignature :
      Method.declares ('\n' :: Standard.margin tabs ++ v.keyword ++ [' '] ++
        (Method.functionKeyword ++ ' ' :: (r.method ++ ['(']))) n = true →
      r.method.map fold = n.map fold :=
    Method.eq_of_declares_signature hopening
      (fun c hc => isSpace_eq_false_of_isNameChar (hmethod c hc))
      (hmethod.notMem (by decide)) (hmethod.notMem (by decide))
  have hfunction : " function ".toList = ' ' :: Method.functionKeyword ++ [' '] := by decide
  simp only [Standard.isSignature, Bool.or_eq_true, beq_iff_eq] at hpassage
  rcases hpassage with rfl | rfl
  · left
    apply hsignature
    simpa [Standard.signature, hv, h.filledRow_nameRow, hfunction] using hd
  · have hparts : Method.declares ('\n' :: Standard.margin tabs ++ v.keyword ++ [' '] ++
        (Method.functionKeyword ++ ' ' :: r.method) ++ '(' :: (r.member.hint.text ++ [' '])) n =
          true := by
      simpa [Standard.signature, hv, h.filledRow_nameRow, hfunction, Member.value] using hd
    rcases Method.declares_append_parenthesis (Method.bars_parenthesis hn) hparts with hown | hhint
    · left
      apply hsignature
      simpa using hown
    · exact .inr (Method.declares_of_append_right (by decide) hhint)

/-- Facts that a source gives declare only what the source declares. -/
theorem declares_of_declares_value {g : Generator} {source : Text}
    (hmember : r.member ∈ g.members source)
    (hdesc : s.isTerse = true ∨ '\n' ∉ r.member.description) {p : Placeholder}
    (hquoted : Standard.isQuoted p = true) (hterse : s.isTerse = true → p ≠ .description)
    (hd : Method.declares (r.member.value p) n = true) : Method.declares source n = true := by
  simp only [Standard.isQuoted, Bool.or_eq_true, beq_iff_eq] at hquoted
  rcases hquoted with (rfl | rfl) | rfl
  · exact Generator.declares_of_declaredType hmember hd
  · exact Generator.declares_of_hint hmember hd
  · rcases hdesc with hterse' | hline
    · exact absurd rfl (hterse hterse')
    · exact Generator.declares_of_description hmember hline hd

/-- Code that is put behind a text declares its own method, and otherwise at most what the text
or the surveyed source declares. -/
theorem Fits.of_declares_text {g : Generator} {source : Text} (h : r.Fits s)
    (hmember : r.member ∈ g.members source)
    (hdesc : s.isTerse = true ∨ '\n' ∉ r.member.description) (hn : IsName n) (a : Text)
    (hd : Method.declares (a ++ r.text (s.template.indented tabs)) n = true) :
    Method.declares a n = true ∨ Method.declares source n = true ∨
      r.method.map fold = n.map fold := by
  have hpieces : Method.declares (a ++
      r.member.filledRow (Body.pieces ((s.template.indented tabs).body r.accessor))) n = true := by
    rw [text, Member.filled] at hd
    cases hkind : r.accessor with
    | getter =>
      rw [hkind] at hd
      exact hd
    | setter =>
      rw [hkind] at hd
      exact Method.declares_of_closeGaps hn a _ hd
  have hpassages := s.hasPassages_pieces tabs r.accessor
  obtain ⟨first, rest, hsplit, hpassage⟩ := r.member.exists_passage hn a _ hpieces
  simp only [hsplit, Standard.hasPassages, Bool.and_eq_true, List.all_eq_true,
    Bool.or_eq_true] at hpassages
  rcases hpassage with hfirst | ⟨passage, hmem, hpassage⟩
  · have hopen := Standard.parenthesis_notMem_of_isSilent h.name hpassages.1
    exact .inl (Method.declares_of_append_right hopen hfirst)
  · right
    rcases hpassages.2 passage hmem with (hsilent | hquotation) | hsignature
    · have hopen := Standard.parenthesis_notMem_of_isSilent h.name hsilent
      rw [Method.declares_eq_false hopen] at hpassage
      cases hpassage
    · obtain ⟨p, hquoted, hterse, hvalue⟩ :=
        Standard.exists_of_declares_quotation h.name hquotation hpassage
      exact .inl (declares_of_declares_value hmember hdesc hquoted hterse hvalue)
    · rcases h.of_declares_signature hn hsignature hpassage with hown | hhint
      · exact .inr hown
      · exact .inl (Generator.declares_of_hint hmember hhint)

end Request

end Accessors

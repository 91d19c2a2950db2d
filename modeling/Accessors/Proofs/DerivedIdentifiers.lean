import Accessors.Proofs.DeclaredVariables

/-!
# Identifiers derived from a member

The name of a member is an identifier, and accessors and parameters are named after it. A method
name begins with a verb, so it can only go wrong in a capital: two word characters have a capital
that is no word character. A parameter's name has no verb, and dropping the underscore may leave
a digit in front, or nothing at all.
-/

namespace Accessors

open Text DeclarationLine

/-- Whether the runs hold every code point from `a` to `b`, all in one run. -/
def Run.covers : List Run → Nat → Nat → Bool
  | [], _, _ => false
  | r :: rs, a, b => r.first.ble a && (r.step.beq 1 && b.ble r.last || covers rs a b)

theorem Run.search_of_covers {rs : List Run} {a b n : Nat} (h : covers rs a b = true)
    (ha : a ≤ n) (hb : n ≤ b) : search rs n = true := by
  induction rs with
  | nil => cases h
  | cons r rs ih =>
    simp only [covers, Bool.and_eq_true, Bool.or_eq_true, Nat.ble_eq, Nat.beq_eq] at h
    have hfirst : r.first ≤ n := Nat.le_trans h.1 ha
    rw [search, Bool.and_eq_true, Bool.or_eq_true, Nat.ble_eq]
    refine ⟨hfirst, ?_⟩
    rcases h.2 with ⟨hstep, hlast⟩ | hrest
    · left
      simp only [holds, Bool.and_eq_true, Nat.ble_eq, hstep, Nat.mod_one]
      exact ⟨⟨hfirst, Nat.le_trans hb hlast⟩, rfl⟩
    · exact .inr (ih hrest)

/-- The two word characters whose capitals are younger than the table of word characters. -/
def isLate (c : Char) : Bool :=
  c == 'ꟓ' || c == 'ꟕ'

/-- Whether a shift leads from word characters to word characters, late ones apart. -/
def Shift.keepsWords (s : Shift) : Bool :=
  Run.covers wordRuns s.target s.lastTarget ||
    (List.range (s.run.last - s.run.first + 1)).all fun k =>
      !Run.search wordRuns (s.run.first + k) || !s.run.holds (s.run.first + k) ||
        Run.search wordRuns (s.target + k) || isLate (Char.ofNat (s.run.first + k))

/-- Upper case leads from word characters to word characters, except from the late ones. -/
theorem keepsWords_upper :
    (∀ s ∈ upperShifts, s.keepsWords = true) ∧
      (∀ e ∈ upperExpansions, (e.2.all fun n => isWord (Char.ofNat n)) = true) ∧
      (upper 'ꟓ').all isWord = false ∧ (upper 'ꟕ').all isWord = false := by
  decide +kernel

theorem isWord_ofNat {n : Nat} (h : Run.search wordRuns n = true) :
    isWord (Char.ofNat n) = true := by
  obtain ⟨r, hr, hfirst, hlast⟩ := Run.exists_of_search h
  rw [isWord, toNat_ofNat_of_codesNames (codesNames_of_mem_wordRuns r hr) hfirst hlast]
  exact h

theorem isWord_shift {c : Char} (hc : isWord c = true) (hlate : isLate c = false) :
    isWord (Char.ofNat (Shift.apply upperShifts c.toNat)) = true := by
  apply isWord_ofNat
  rcases Shift.apply_cases upperShifts c.toNat with hself | ⟨s, hs, hholds, happly⟩
  · rw [hself]
    exact hc
  · rw [happly]
    have hbounds := Run.bounds_of_holds hholds
    obtain ⟨hshifts, -⟩ := keepsWords_upper
    have hkeeps := hshifts s hs
    rw [Shift.keepsWords, Bool.or_eq_true, List.all_eq_true] at hkeeps
    rcases hkeeps with hcovers | hpoints
    · exact Run.search_of_covers hcovers (Nat.le_add_right _ _) (by rw [Shift.lastTarget]; omega)
    · have hpoint := hpoints (c.toNat - s.run.first) (List.mem_range.mpr (by omega))
      have hword : Run.search wordRuns c.toNat = true := hc
      rw [Nat.add_sub_cancel' hbounds.1, Char.ofNat_toNat, hlate, hholds, hword] at hpoint
      simpa using hpoint

/-- The capital of a word character is made of word characters, unless it is a late one. -/
theorem all_isWord_upper_iff {c : Char} (hc : isWord c = true) :
    (upper c).all isWord = true ↔ isLate c = false := by
  obtain ⟨-, hexpansions, hfirst, hsecond⟩ := keepsWords_upper
  constructor
  · intro h
    rw [Bool.eq_false_iff]
    intro hlate
    rw [isLate, Bool.or_eq_true, beq_iff_eq, beq_iff_eq] at hlate
    rcases hlate with rfl | rfl
    · exact absurd (hfirst.symm.trans h) Bool.false_ne_true
    · exact absurd (hsecond.symm.trans h) Bool.false_ne_true
  · intro hlate
    rw [upper]
    split
    · next ns hns =>
      obtain ⟨l, r, hsplit, -⟩ := List.lookup_eq_some_iff.mp hns
      rw [List.all_map]
      exact hexpansions (c.toNat, ns) (by simp [hsplit])
    · simp [isWord_shift hc hlate]

theorem isWord_of_isNameStart {c : Char} (h : isNameStart c = true) : isWord c = true := by
  rcases codes_of_isNameStart h with ⟨hfirst, hlast⟩ | ⟨hfirst, hlast⟩ | ⟨hfirst, hlast⟩
  · exact Run.search_of_covers (by decide) hfirst hlast
  · exact Run.search_of_covers (by decide) hfirst hlast
  · exact Run.search_of_covers (by decide) hfirst hlast

theorem isIdentifier_append {a : Text} (h : isIdentifier a = true) (b : Text) :
    isIdentifier (a ++ b) = b.all isWord := by
  cases a with
  | nil => cases h
  | cons c a =>
    rw [isIdentifier, Bool.and_eq_true] at h
    rw [List.cons_append, isIdentifier, List.all_append, h.1, h.2, Bool.true_and, Bool.true_and]

theorem isIdentifier_eq_startsName {t : Text} (h : t.all isWord = true) :
    isIdentifier t = startsName t := by
  cases t with
  | nil => rfl
  | cons c t =>
    rw [List.all_cons, Bool.and_eq_true] at h
    rw [isIdentifier, h.2, Bool.and_true]
    rfl

theorem all_isWord_of_isIdentifier {t : Text} (h : isIdentifier t = true) :
    t.all isWord = true := by
  cases t with
  | nil => rfl
  | cons c t =>
    rw [isIdentifier, Bool.and_eq_true] at h
    rw [List.all_cons, isWord_of_isNameStart h.1, h.2]
    rfl

namespace Naming

variable {name : Text}

theorem isWord_toUpper {c : Char} (h : isSmallAscii c = true) :
    isWord c.toUpper = true ∧ isLate c.toUpper = false :=
  forall_isSmallAscii h (by decide)

theorem isIdentifier_parameter_iff (h : isIdentifier name = true) :
    isIdentifier (parameter name) = true ↔ ∀ rest, name = '_' :: rest → startsName rest = true := by
  have hwords := all_isWord_of_isIdentifier h
  unfold parameter
  split
  · next rest =>
    rw [List.all_cons, Bool.and_eq_true] at hwords
    rw [isIdentifier_eq_startsName hwords.2]
    constructor
    · rintro hs _ ⟨⟩
      exact hs
    · exact fun hs => hs rest rfl
  · next hne =>
    constructor
    · intro _ rest hname
      exact absurd hname (hne rest)
    · exact fun _ => h

/-- Raising marked letters puts no late character in front and takes none away. -/
theorem isLate_head?_raiseMarked_iff :
    (∀ c ∈ (raiseMarked name).head?, isLate c = false) ↔ ∀ c ∈ name.head?, isLate c = false := by
  cases name with
  | nil => rfl
  | cons x t =>
    by_cases hx : x = '_'
    · subst hx
      have hraised : ∀ c ∈ (raiseMarked ('_' :: t)).head?, isLate c = false := by
        cases t with
        | nil => simp [raiseMarked, isLate]
        | cons d t =>
          rw [raiseMarked]
          split
          · next hd => simp [(isWord_toUpper hd).2]
          · simp [isLate]
      exact iff_of_true hraised (by simp [isLate])
    · rw [raiseMarked_cons hx]
      rfl

theorem all_isWord_bare (h : name.all isWord = true) : (bare name).all isWord = true := by
  rw [List.all_eq_true] at h ⊢
  exact fun c hc => h c ((bare_suffix name).mem hc)

theorem all_isWord_raiseMarked (h : name.all isWord = true) :
    (raiseMarked name).all isWord = true := by
  rw [List.all_eq_true] at h ⊢
  intro c hc
  rcases mem_raiseMarked hc with hmem | ⟨d, hd, rfl⟩
  · exact h c hmem
  · exact (isWord_toUpper hd).1

theorem all_isWord_raiseFirst_iff (h : name.all isWord = true) :
    (raiseFirst name).all isWord = true ↔ ∀ c ∈ name.head?, isLate c = false := by
  cases name with
  | nil => simp [raiseFirst]
  | cons c t =>
    rw [List.all_cons, Bool.and_eq_true] at h
    rw [raiseFirst, List.all_append, h.2, Bool.and_true, all_isWord_upper_iff h.1]
    simp

/-- An underscore is a word character, so it makes no difference whether underscores are kept. -/
theorem all_isWord_filter (t : Text) : (t.filter (· != '_')).all isWord = t.all isWord := by
  induction t with
  | nil => rfl
  | cons c t ih =>
    by_cases hc : c = '_'
    · have hword : isWord '_' = true := by decide
      rw [hc, List.filter_cons_of_neg (by simp), List.all_cons, hword, Bool.true_and, ih]
    · rw [List.filter_cons_of_pos (by simpa using hc), List.all_cons, List.all_cons, ih]

/-- A camel case name is made of word characters unless it begins with the capital of a late one. -/
theorem all_isWord_camel_iff (h : name.all isWord = true) :
    (camel name).all isWord = true ↔ ∀ c ∈ (bare name).head?, isLate c = false := by
  rw [camel, all_isWord_filter, ← isLate_head?_raiseMarked_iff]
  exact all_isWord_raiseFirst_iff (all_isWord_raiseMarked (all_isWord_bare h))

theorem all_isWord_stem_iff (style : Style) (h : name.all isWord = true) :
    (stem style name).all isWord = true ↔
      (style = .camel → ∀ c ∈ (bare name).head?, isLate c = false) := by
  cases style with
  | camel =>
    rw [stem, all_isWord_camel_iff h]
    simp
  | snake => simp [stem, all_isWord_bare h]

end Naming

namespace Member

variable (m : Member)

theorem isIdentifier_getterName : isIdentifier m.getterName = m.stem.all isWord := by
  refine isIdentifier_append ?_ m.stem
  rw [getterVerb]
  split <;> cases m.style <;> decide

theorem isIdentifier_setterName : isIdentifier m.setterName = m.stem.all isWord := by
  refine isIdentifier_append ?_ m.stem
  rw [visibilityMark, setterVerb]
  split
  · split <;> cases m.style <;> decide
  · cases m.style <;> decide

end Member

theorem Survey.isIdentifier_of_mem_declarations {source : Text} {d : Declaration}
    (h : d ∈ (ofSource source).declarations) : isIdentifier d.name = true := by
  obtain ⟨form, -, hname⟩ := exists_form_of_mem_declarations h
  obtain ⟨before, after, -, -, hlongest⟩ := exists_of_name? hname
  exact hlongest.isIdentifier

/-- The accessors of a declared member are named by identifiers unless, in camel case, the bare name
begins with a late word character. The parameter of its setter is named by one unless an
underscore is dropped from it and what is left does not begin like an identifier. -/
theorem derived_names_are_identifiers_iff {source : Text} {d : Declaration}
    (hd : d ∈ (Survey.ofSource source).declarations) (t : Template) (options : Options) :
    (isIdentifier (Member.ofDeclaration t options d).getterName = true ↔
        (t.style = .camel → ∀ c ∈ (Naming.bare d.name).head?, isLate c = false)) ∧
      (isIdentifier (Member.ofDeclaration t options d).setterName = true ↔
        (t.style = .camel → ∀ c ∈ (Naming.bare d.name).head?, isLate c = false)) ∧
      (isIdentifier ((Member.ofDeclaration t options d).value .param) = true ↔
        ∀ rest, d.name = '_' :: rest → startsName rest = true) := by
  have hname := Survey.isIdentifier_of_mem_declarations hd
  have hstem := Naming.all_isWord_stem_iff t.style (all_isWord_of_isIdentifier hname)
  refine ⟨?_, ?_, Naming.isIdentifier_parameter_iff hname⟩
  · rw [Member.isIdentifier_getterName]
    exact hstem
  · rw [Member.isIdentifier_setterName]
    exact hstem

/-- A class of which one member has a bare name, one has none, and one has a late one. -/
def markedClass : Text :=
  "class Box \x7b\n    private $_aList;\n    private $_;\n    private $_ꟓ;\n\x7d\n"

def markedDeclaration (name : Text) (line : Nat) : Declaration :=
  ⟨name, .isPrivate, none, line, "private $" ++ name ++ ";"⟩

theorem declarations_markedClass : (Survey.ofSource markedClass).declarations =
    [markedDeclaration "_aList" 2, markedDeclaration "_" 3, markedDeclaration "_ꟓ" 4] := by
  decide +kernel

theorem markedClass_derives_identifiers :
    markedDeclaration "_aList" 2 ∈ (Survey.ofSource markedClass).declarations ∧
      isIdentifier (Member.ofDeclaration Standard.camelCase.template {}
        (markedDeclaration "_aList" 2)).getterName = true ∧
      isIdentifier (Member.ofDeclaration Standard.camelCase.template {}
        (markedDeclaration "_aList" 2)).setterName = true ∧
      isIdentifier ((Member.ofDeclaration Standard.camelCase.template {}
        (markedDeclaration "_aList" 2)).value .param) = true := by
  have hmem : markedDeclaration "_aList" 2 ∈ (Survey.ofSource markedClass).declarations := by
    simp [declarations_markedClass]
  obtain ⟨hgetter, hsetter, hparam⟩ :=
    derived_names_are_identifiers_iff hmem Standard.camelCase.template {}
  have hbare : (Naming.bare "_aList").head? = some 'L' := by decide
  have hlate : Standard.camelCase.template.style = .camel →
      ∀ c ∈ (Naming.bare (markedDeclaration "_aList" 2).name).head?, isLate c = false := by
    intro _ c hc
    rw [← Option.some.inj (hbare.symm.trans hc)]
    decide
  refine ⟨hmem, hgetter.mpr hlate, hsetter.mpr hlate, hparam.mpr ?_⟩
  rintro rest ⟨⟩
  decide

/-- The parameter of a member that is named by an underscore has no name, and the getter of one that
is named by a late word character is named by no identifier. -/
theorem markedClass_derives_other_names :
    markedDeclaration "_" 3 ∈ (Survey.ofSource markedClass).declarations ∧
      (Member.ofDeclaration Standard.camelCase.template {} (markedDeclaration "_" 3)).value .param =
        [] ∧
      markedDeclaration "_ꟓ" 4 ∈ (Survey.ofSource markedClass).declarations ∧
      isIdentifier (Member.ofDeclaration Standard.camelCase.template {}
        (markedDeclaration "_ꟓ" 4)).getterName = false := by
  refine ⟨by simp [declarations_markedClass], rfl, by simp [declarations_markedClass], ?_⟩
  decide +kernel

end Accessors

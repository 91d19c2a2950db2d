import Accessors.Generation.Generator
import Accessors.Proofs.TextLaws

/-!
# The characters of derived names

Names are made of word characters. Within ASCII these are letters, digits and the underscore, and
no change of letter case leads from a name to any other ASCII character or to white space. So the
names derived from a member hold neither white space nor ASCII punctuation.
-/

namespace Accessors

/-- A character that may stand in a derived name: within ASCII a letter, a digit or the underscore,
and beyond it any but white space. -/
def isNameChar (c : Char) : Bool :=
  let n := c.toNat
  decide (0x30 ≤ n ∧ n ≤ 0x39 ∨ 0x41 ≤ n ∧ n ≤ 0x5a ∨ n = 0x5f ∨ 0x61 ≤ n ∧ n ≤ 0x7a ∨ 0x80 ≤ n) &&
    !isSpace c

theorem isSpace_eq_false_of_isNameChar {c : Char} (h : isNameChar c = true) :
    isSpace c = false := by
  simp only [isNameChar, Bool.and_eq_true, Bool.not_eq_true'] at h
  exact h.2

theorem Run.exists_of_search {rs : List Run} {n : Nat} (h : search rs n = true) :
    ∃ r ∈ rs, r.first ≤ n ∧ n ≤ r.last := by
  induction rs with
  | nil => cases h
  | cons r rs ih =>
    simp only [search, holds, Bool.and_eq_true, Bool.or_eq_true, Nat.ble_eq] at h
    rcases h.2 with hr | hs
    · exact ⟨r, List.mem_cons_self, hr.1⟩
    · obtain ⟨q, hq, hn⟩ := ih hs
      exact ⟨q, List.mem_cons_of_mem r hq, hn⟩

/-- Every code point of the interval is that of a name character. -/
def codesNames (first last : Nat) : Bool :=
  ((0x30 ≤ first && last ≤ 0x39) || (0x41 ≤ first && last ≤ 0x5a) ||
    (0x5f ≤ first && last ≤ 0x5f) || (0x61 ≤ first && last ≤ 0x7a) ||
    (0x80 ≤ first && last < 0xd800) || (0xe000 ≤ first && last < 0x110000)) &&
    spaceRuns.all fun r => last < r.first || r.last < first

/-- The same test by comparisons that evaluate quickly, for use on a table. -/
def testsNames (first last : Nat) : Bool :=
  (Nat.ble 0x80 first && Nat.blt last 0xd800 || Nat.ble 0xe000 first && Nat.blt last 0x110000 ||
    Nat.ble 0x30 first && Nat.ble last 0x39 || Nat.ble 0x41 first && Nat.ble last 0x5a ||
    Nat.ble 0x5f first && Nat.ble last 0x5f || Nat.ble 0x61 first && Nat.ble last 0x7a) &&
    spaceRuns.all fun r => Nat.blt last r.first || Nat.blt r.last first

theorem codesNames_of_testsNames {first last : Nat} (h : testsNames first last = true) :
    codesNames first last = true := by
  simp only [testsNames, Bool.and_eq_true, Bool.or_eq_true, List.all_eq_true, Nat.ble_eq,
    Nat.blt_eq] at h
  simp only [codesNames, Bool.and_eq_true, Bool.or_eq_true, List.all_eq_true, decide_eq_true_eq]
  exact ⟨by omega, h.2⟩

theorem isNameChar_of_codesNames {c : Char} {first last : Nat} (h : codesNames first last = true)
    (hfirst : first ≤ c.toNat) (hlast : c.toNat ≤ last) : isNameChar c = true := by
  rw [codesNames, Bool.and_eq_true, List.all_eq_true] at h
  obtain ⟨hrange, hspaces⟩ := h
  rw [isNameChar, Bool.and_eq_true, Bool.not_eq_true']
  constructor
  · simp only [Bool.or_eq_true, Bool.and_eq_true, decide_eq_true_eq] at hrange ⊢
    omega
  · rw [Bool.eq_false_iff]
    intro hspace
    obtain ⟨r, hr, hrfirst, hrlast⟩ := Run.exists_of_search hspace
    have hbeside := hspaces r hr
    simp only [Bool.or_eq_true, decide_eq_true_eq] at hbeside
    omega

theorem toNat_ofNat_of_codesNames {n first last : Nat} (h : codesNames first last = true)
    (hfirst : first ≤ n) (hlast : n ≤ last) : (Char.ofNat n).toNat = n := by
  have hvalid : n.isValidChar := by
    rw [codesNames, Bool.and_eq_true] at h
    have hrange := h.1
    simp only [Bool.or_eq_true, Bool.and_eq_true, decide_eq_true_eq] at hrange
    simp only [Nat.isValidChar]
    omega
  rw [Char.ofNat, dif_pos hvalid]
  rfl

def Shift.lastTarget (s : Shift) : Nat :=
  s.target + (s.run.last - s.run.first)

theorem Shift.apply_cases (ss : List Shift) (n : Nat) :
    apply ss n = n ∨
      ∃ s ∈ ss, s.run.holds n = true ∧ apply ss n = s.target + (n - s.run.first) := by
  induction ss with
  | nil => exact .inl rfl
  | cons s ss ih =>
    rw [apply]
    split
    · exact .inl rfl
    split
    · next h => exact .inr ⟨s, List.mem_cons_self, h, rfl⟩
    · rcases ih with hself | ⟨q, hq, hn⟩
      · exact .inl hself
      · exact .inr ⟨q, List.mem_cons_of_mem s hq, hn⟩

theorem Run.bounds_of_holds {r : Run} {n : Nat} (h : r.holds n = true) :
    r.first ≤ n ∧ n ≤ r.last := by
  simp only [holds, Bool.and_eq_true, Nat.ble_eq] at h
  exact h.1

theorem Shift.apply_eq_self_or (ss : List Shift) (n : Nat) :
    apply ss n = n ∨ ∃ s ∈ ss, s.target ≤ apply ss n ∧ apply ss n ≤ s.lastTarget := by
  refine (apply_cases ss n).imp_right ?_
  rintro ⟨s, hs, hholds, happly⟩
  have hbounds := Run.bounds_of_holds hholds
  refine ⟨s, hs, ?_⟩
  rw [happly, lastTarget]
  omega

theorem ofNat_shift {ss : List Shift} (h : ∀ s ∈ ss, codesNames s.target s.lastTarget = true)
    (c : Char) :
    Char.ofNat (Shift.apply ss c.toNat) = c ∨
      isNameChar (Char.ofNat (Shift.apply ss c.toNat)) = true := by
  rcases Shift.apply_eq_self_or ss c.toNat with hself | ⟨s, hs, hfirst, hlast⟩
  · exact .inl (by rw [hself, Char.ofNat_toNat])
  · have hn := toNat_ofNat_of_codesNames (h s hs) hfirst hlast
    exact .inr (isNameChar_of_codesNames (h s hs) (by omega) (by omega))

/-- The tables of word characters and of letter case pass the test, and letter case never leads to
an underscore. -/
theorem testsNames_tables :
    (∀ r ∈ wordRuns, testsNames r.first r.last = true) ∧
      ∀ s ∈ foldShifts ++ upperShifts ++ lowerShifts,
        testsNames s.target s.lastTarget = true ∧ (s.lastTarget < 0x5f ∨ 0x5f < s.target) := by
  decide +kernel

theorem codesNames_of_mem_wordRuns : ∀ r ∈ wordRuns, codesNames r.first r.last = true := by
  obtain ⟨hwords, -⟩ := testsNames_tables
  exact fun r hr => codesNames_of_testsNames (hwords r hr)

theorem isNameChar_of_isWord {c : Char} (h : isWord c = true) : isNameChar c = true := by
  obtain ⟨r, hr, hfirst, hlast⟩ := Run.exists_of_search h
  exact isNameChar_of_codesNames (codesNames_of_mem_wordRuns r hr) hfirst hlast

theorem codesNames_of_mem_shifts :
    ∀ s ∈ foldShifts ++ upperShifts ++ lowerShifts,
      codesNames s.target s.lastTarget = true ∧ (s.lastTarget < 0x5f ∨ 0x5f < s.target) := by
  obtain ⟨-, hshifts⟩ := testsNames_tables
  exact fun s hs => (hshifts s hs).imp_left codesNames_of_testsNames

theorem fold_eq_self_or (c : Char) : fold c = c ∨ isNameChar (fold c) = true :=
  ofNat_shift (fun s hs => (codesNames_of_mem_shifts s (by simp [hs])).1) c

theorem eq_or_isNameChar_of_mem_upper {c d : Char} (hd : d ∈ upper c) :
    d = c ∨ isNameChar d = true := by
  have hexpansions : ∀ e ∈ upperExpansions, ∀ n ∈ e.2, isNameChar (Char.ofNat n) = true := by
    decide
  rw [upper] at hd
  split at hd
  · next ns hns =>
    obtain ⟨n, hn, rfl⟩ := List.mem_map.mp hd
    obtain ⟨l, r, hsplit, -⟩ := List.lookup_eq_some_iff.mp hns
    exact .inr (hexpansions (c.toNat, ns) (by simp [hsplit]) n hn)
  · rw [List.mem_singleton.mp hd]
    exact ofNat_shift (fun s hs => (codesNames_of_mem_shifts s (by simp [hs])).1) c

theorem eq_or_isNameChar_of_mem_lower {c d : Char} (hd : d ∈ lower c) :
    d = c ∨ isNameChar d = true := by
  rw [lower] at hd
  split at hd
  · simp only [List.mem_cons, List.not_mem_nil, or_false] at hd
    rcases hd with rfl | rfl <;> exact .inr (by decide)
  · rw [List.mem_singleton.mp hd]
    exact ofNat_shift (fun s hs => (codesNames_of_mem_shifts s (by simp [hs])).1) c

theorem mem_or_isNameChar_of_mem_lowerFrom {before t : Text} {d : Char}
    (hd : d ∈ lowerFrom before t) : d ∈ t ∨ isNameChar d = true := by
  induction t generalizing before with
  | nil => cases hd
  | cons c t ih =>
    rw [lowerFrom, List.mem_append] at hd
    rcases hd with himage | hrest
    · split at himage
      · rw [List.mem_singleton.mp himage]
        right
        split <;> decide
      · exact (eq_or_isNameChar_of_mem_lower himage).imp_left fun h => by simp [h]
    · exact (ih hrest).imp_left (List.mem_cons_of_mem c)

/-- What holds of the codes of the small ASCII letters holds of the letters. -/
@[elab_as_elim]
theorem Naming.forall_isSmallAscii {P : Char → Prop} {c : Char} (hc : isSmallAscii c = true)
    (h : ∀ n ≤ 122, 97 ≤ n → P (Char.ofNat n)) : P c := by
  simp only [isSmallAscii, Bool.and_eq_true, decide_eq_true_eq] at hc
  have hcode := h c.toNat hc.2 hc.1
  rwa [Char.ofNat_toNat] at hcode

theorem isNameChar_toUpper {c : Char} (h : Naming.isSmallAscii c = true) :
    isNameChar c.toUpper = true :=
  Naming.forall_isSmallAscii h (by decide)

def Text.IsName (t : Text) : Prop :=
  ∀ c ∈ t, isNameChar c = true

namespace Text.IsName

variable {s t : Text} {c : Char}

theorem nil : IsName [] := by
  simp [IsName]

theorem of_all (h : t.all isNameChar = true) : IsName t :=
  List.all_eq_true.mp h

theorem cons_iff : IsName (c :: t) ↔ isNameChar c = true ∧ IsName t :=
  List.forall_mem_cons

theorem append_iff : IsName (s ++ t) ↔ IsName s ∧ IsName t :=
  List.forall_mem_append

theorem notMem (h : IsName t) (hc : isNameChar c = false) : c ∉ t := by
  intro hmem
  rw [h c hmem] at hc
  cases hc

/-- No character of a name folds to one that cannot stand in a name. -/
theorem fold_ne (h : IsName t) {d : Char} (hd : isNameChar d = false) (hc : c ∈ t) :
    fold c ≠ d := by
  intro heq
  have hfold : isNameChar (fold c) = true := by
    rcases fold_eq_self_or c with hself | hname
    · rw [hself, h c hc]
    · exact hname
  rw [heq, hd] at hfold
  cases hfold

end Text.IsName

open Text

theorem DeclarationLine.codes_of_isNameStart {c : Char} (h : isNameStart c = true) :
    0x41 ≤ c.toNat ∧ c.toNat ≤ 0x5a ∨ 0x5f ≤ c.toNat ∧ c.toNat ≤ 0x5f ∨
      0x61 ≤ c.toNat ∧ c.toNat ≤ 0x7a := by
  rw [isNameStart, Bool.or_eq_true, beq_iff_eq] at h
  rcases h with hletter | rfl
  · change (decide (65 ≤ c.toNat ∧ c.toNat ≤ 90) ||
      (decide (97 ≤ c.toNat) && decide (c.toNat ≤ 122))) = true at hletter
    simp only [Bool.or_eq_true, Bool.and_eq_true, decide_eq_true_eq] at hletter
    omega
  · decide

theorem DeclarationLine.isNameChar_of_isNameStart {c : Char} (h : isNameStart c = true) :
    isNameChar c = true := by
  rcases codes_of_isNameStart h with ⟨hfirst, hlast⟩ | ⟨hfirst, hlast⟩ | ⟨hfirst, hlast⟩
  · exact isNameChar_of_codesNames (by decide) hfirst hlast
  · exact isNameChar_of_codesNames (by decide) hfirst hlast
  · exact isNameChar_of_codesNames (by decide) hfirst hlast

theorem DeclarationLine.isName_of_name? {t name : Text} (h : name? t = some name) :
    IsName name := by
  induction t using name?.induct with
  | case1 c rest hc =>
    rw [name?, if_pos hc] at h
    obtain rfl := Option.some.inj h
    exact IsName.cons_iff.mpr
      ⟨isNameChar_of_isNameStart hc, fun d hd => isNameChar_of_isWord (List.mem_takeWhile_imp hd)⟩
  | case2 c rest hc ih =>
    rw [name?, if_neg hc] at h
    exact ih h
  | case3 c rest hne ih =>
    rw [name?] at h
    · exact ih h
    · exact hne
  | case4 => cases h

namespace Naming

variable {name : Text}

theorem mem_of_mem_parameter {c : Char} (h : c ∈ parameter name) : c ∈ name := by
  unfold parameter at h
  split at h
  · exact List.mem_cons_of_mem _ h
  · exact h

theorem bare_suffix (name : Text) : bare name <:+ name := by
  unfold bare
  split
  · split
    · exact (List.suffix_cons _ _).trans (List.suffix_cons _ _)
    · exact List.suffix_cons _ _
  · exact List.suffix_cons _ _
  · split
    · exact List.suffix_cons _ _
    · exact List.suffix_rfl
  · exact List.suffix_rfl

theorem raiseMarked_cons {c : Char} (hc : c ≠ '_') (t : Text) :
    raiseMarked (c :: t) = c :: raiseMarked t := by
  rw [raiseMarked]
  rintro d rest rfl
  exact absurd rfl hc

theorem mem_raiseMarked {c : Char} (h : c ∈ raiseMarked name) :
    c ∈ name ∨ ∃ d, isSmallAscii d = true ∧ c = d.toUpper := by
  induction name using raiseMarked.induct with
  | case1 d rest hd ih =>
    rw [raiseMarked, if_pos hd] at h
    rcases List.mem_cons.mp h with hc | hc
    · exact .inr ⟨d, hd, hc⟩
    · exact (ih hc).imp_left fun hm => by simp [hm]
  | case2 d rest hd ih =>
    rw [raiseMarked, if_neg hd] at h
    rcases List.mem_cons.mp h with rfl | hc
    · exact .inl List.mem_cons_self
    · exact (ih hc).imp_left (List.mem_cons_of_mem _)
  | case3 d rest hne ih =>
    rw [raiseMarked.eq_2 _ _ hne] at h
    rcases List.mem_cons.mp h with rfl | hc
    · exact .inl List.mem_cons_self
    · exact (ih hc).imp_left (List.mem_cons_of_mem _)
  | case4 => cases h

theorem isName_parameter (h : IsName name) : IsName (parameter name) :=
  fun c hc => h c (mem_of_mem_parameter hc)

theorem isName_bare (h : IsName name) : IsName (bare name) :=
  fun c hc => h c ((bare_suffix name).mem hc)

theorem isName_raiseMarked (h : IsName name) : IsName (raiseMarked name) := by
  intro c hc
  rcases mem_raiseMarked hc with hmem | ⟨d, hd, rfl⟩
  · exact h c hmem
  · exact isNameChar_toUpper hd

theorem isName_raiseFirst (h : IsName name) : IsName (raiseFirst name) := by
  cases name with
  | nil => exact IsName.nil
  | cons c rest =>
    rw [IsName.cons_iff] at h
    refine IsName.append_iff.mpr ⟨fun d hd => ?_, h.2⟩
    rcases eq_or_isNameChar_of_mem_upper hd with rfl | hname
    · exact h.1
    · exact hname

theorem isName_stem (style : Style) (h : IsName name) : IsName (stem style name) := by
  have hbare := isName_bare h
  cases style with
  | snake => exact hbare
  | camel =>
    intro c hc
    exact isName_raiseFirst (isName_raiseMarked hbare) c (List.mem_filter.mp hc).1

theorem mem_of_wordWithLead? {k : Nat} {t word rest : Text} {c : Char}
    (h : wordWithLead? k t = some (word, rest)) (hc : c ∈ word ∨ c ∈ rest) : c ∈ t := by
  simp only [wordWithLead?] at h
  split at h
  · obtain ⟨rfl, rfl⟩ := Prod.mk.inj (Option.some.inj h)
    rw [← List.take_append_drop k t, List.mem_append]
    rw [List.mem_append, or_assoc, ← List.mem_append, List.takeWhile_append_dropWhile] at hc
    exact hc
  · cases h

theorem mem_of_word? {t word rest : Text} {c : Char} (h : word? t = some (word, rest))
    (hc : c ∈ word ∨ c ∈ rest) : c ∈ t := by
  simp only [word?, Option.or_eq_some_iff] at h
  rcases h with (h | ⟨-, h⟩) | ⟨-, h⟩ <;> exact mem_of_wordWithLead? h hc

theorem mem_of_mem_words {t word : Text} {c : Char} (hword : word ∈ words t) (hc : c ∈ word) :
    c ∈ t := by
  induction t using words.induct with
  | case1 =>
    rw [words] at hword
    cases hword
  | case2 d rest w after h ih =>
    rw [words, h] at hword
    rcases List.mem_cons.mp hword with rfl | htail
    · exact mem_of_word? h (.inl hc)
    · exact mem_of_word? h (.inr (ih htail))
  | case3 d rest h ih =>
    rw [words, h] at hword
    exact List.mem_cons_of_mem d (ih hword)

/-- A phrase for comments is made of name characters and spaces. -/
theorem eq_space_or_isNameChar_of_mem_phrase {style : Style} (h : IsName name) {c : Char}
    (hc : c ∈ phrase style name) : c = ' ' ∨ isNameChar c = true := by
  cases style with
  | snake =>
    obtain ⟨d, hd, rfl⟩ := List.mem_map.mp hc
    split
    · exact .inl rfl
    · exact .inr (h d hd)
  | camel =>
    rcases mem_or_isNameChar_of_mem_lowerFrom hc with hjoin | hname
    · rcases mem_of_mem_intercalate hjoin with hspace | ⟨word, hword, hcword⟩
      · exact .inl (List.mem_singleton.mp hspace)
      · exact .inr (h c (mem_of_mem_words hword hcword))
    · exact .inr hname

end Naming

namespace Member

variable {m : Member}

theorem isName_visibilityMark (m : Member) : IsName m.visibilityMark := by
  unfold visibilityMark
  split <;> exact IsName.of_all rfl

theorem isName_getterVerb (m : Member) : IsName m.getterVerb := by
  unfold getterVerb
  split <;> exact IsName.of_all rfl

theorem isName_setterVerb (m : Member) : IsName m.setterVerb :=
  IsName.of_all rfl

theorem isName_separator (style : Style) : IsName style.separator := by
  cases style <;> exact IsName.of_all rfl

theorem isName_getterName (h : IsName m.name) : IsName m.getterName := by
  simp only [getterName, IsName.append_iff]
  exact ⟨⟨m.isName_getterVerb, isName_separator m.style⟩, Naming.isName_stem m.style h⟩

theorem isName_setterName (h : IsName m.name) : IsName m.setterName := by
  have hmark : IsName (if m.marksPrivate then m.visibilityMark else []) := by
    split
    · exact m.isName_visibilityMark
    · exact IsName.nil
  simp only [setterName, IsName.append_iff]
  exact ⟨⟨⟨hmark, m.isName_setterVerb⟩, isName_separator m.style⟩, Naming.isName_stem m.style h⟩

theorem head?_getterName (m : Member) :
    (m.getterName.map fold).head? = some 'g' ∨ (m.getterName.map fold).head? = some 'i' := by
  rw [getterName, getterVerb]
  split
  · exact .inr rfl
  · exact .inl rfl

theorem head?_setterName (m : Member) :
    (m.setterName.map fold).head? = some '_' ∨ (m.setterName.map fold).head? = some 's' := by
  rw [setterName, visibilityMark]
  split
  · split
    · exact .inl rfl
    · exact .inr rfl
  · exact .inr rfl

/-- The facts that a doc comment does not give are made of name characters and spaces. -/
theorem eq_space_or_isNameChar_of_mem_value (hname : IsName m.name) {p : Placeholder}
    (htype : p ≠ .type) (hhint : p ≠ .typeHint) (hdescription : p ≠ .description) {c : Char}
    (hc : c ∈ m.value p) : c = ' ' ∨ isNameChar c = true := by
  have hkeyword : IsName m.visibility.keyword := by
    cases m.visibility <;> exact IsName.of_all rfl
  cases p with
  | type => exact absurd rfl htype
  | typeHint => exact absurd rfl hhint
  | description => exact absurd rfl hdescription
  | phrase => exact Naming.eq_space_or_isNameChar_of_mem_phrase hname hc
  | name => exact .inr (hname c hc)
  | param => exact .inr (Naming.isName_parameter hname c hc)
  | visibility => exact .inr (hkeyword c hc)
  | visibilityMark => exact .inr (m.isName_visibilityMark c hc)
  | stem => exact .inr (Naming.isName_stem m.style hname c hc)
  | getterVerb => exact .inr (m.isName_getterVerb c hc)
  | setterVerb => exact .inr (m.isName_setterVerb c hc)

end Member

theorem Request.isName_method {r : Request} (h : IsName r.member.name) : IsName r.method := by
  unfold method
  split
  · exact Member.isName_getterName h
  · exact Member.isName_setterName h

/-- Getters and setters differ in the first letters of their names, even if letter case does not
count. -/
theorem Request.accessor_eq_of_method {q r : Request}
    (h : q.method.map fold = r.method.map fold) : q.accessor = r.accessor := by
  have hne : ∀ m m' : Member, m.getterName.map fold ≠ m'.setterName.map fold := by
    intro m m' heq
    have hgetter := m.head?_getterName
    rw [heq] at hgetter
    rcases m'.head?_setterName with hs | hs <;> rw [hs] at hgetter <;> simp at hgetter
  obtain ⟨a, m⟩ := q
  obtain ⟨b, m'⟩ := r
  cases a <;> cases b
  · rfl
  · exact absurd h (hne m m')
  · exact absurd h.symm (hne m' m)
  · rfl

theorem Finding.isName_of_read? {above : List Text} {line : Text} {d : Declaration}
    (h : read? above line = some (.member d)) : IsName d.name := by
  obtain ⟨l, -, hd⟩ := Option.map_eq_some_iff.mp h
  split at hd
  · next name hname =>
    obtain rfl := Finding.member.inj hd
    exact DeclarationLine.isName_of_name? hname
  · cases hd

/-- Each finding comes from a line, and the lines above it are known. -/
theorem Finding.exists_read?_of_mem_readAll {above ls : List Text} {f : Finding}
    (h : f ∈ readAll above ls) :
    ∃ above' line, read? above' line = some f ∧ ∀ l ∈ above', l ∈ above ∨ l ∈ ls := by
  induction ls generalizing above with
  | nil => cases h
  | cons line ls ih =>
    rcases List.mem_append.mp h with hline | hrest
    · exact ⟨above, line, by simpa using hline, fun l hl => .inl hl⟩
    · obtain ⟨above', line', hread, habove⟩ := ih hrest
      refine ⟨above', line', hread, fun l hl => ?_⟩
      rcases habove l hl with hmem | hmem
      · rcases List.mem_cons.mp hmem with rfl | hmem
        · exact .inr List.mem_cons_self
        · exact .inl hmem
      · exact .inr (List.mem_cons_of_mem line hmem)

theorem Generator.exists_read?_of_mem_members {g : Generator} {source : Text} {m : Member}
    (h : m ∈ g.members source) :
    ∃ above line d, Finding.read? above line = some (.member d) ∧
      (∀ l ∈ above, l ∈ lines source) ∧ m = Member.ofDeclaration g.template g.options d := by
  obtain ⟨d, hd, rfl⟩ := List.mem_map.mp h
  obtain ⟨f, hf, hfd⟩ := List.mem_filterMap.mp hd
  obtain ⟨above, line, hread, habove⟩ := Finding.exists_read?_of_mem_readAll hf
  cases f with
  | member d' =>
    obtain rfl := Option.some.inj hfd
    exact ⟨above, line, d', hread, by simpa using habove, rfl⟩
  | nameless s => cases hfd

/-- Every member of a source has a name of name characters. -/
theorem Generator.isName_of_mem_members {g : Generator} {source : Text} {m : Member}
    (h : m ∈ g.members source) : IsName m.name := by
  obtain ⟨above, line, d, hread, -, rfl⟩ := exists_read?_of_mem_members h
  exact Finding.isName_of_read? hread

end Accessors

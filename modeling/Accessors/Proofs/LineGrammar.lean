import Accessors.Proofs.SurveyStability
import Mathlib.Data.List.Forall2

/-!
# The grammar of declaration lines

Declaration lines are read from left to right without ever going back. The lines that are read
are described here by a grammar, and so is the part at the end of a line that is no part of what is
declared. A survey then reports exactly the lines of that grammar, each with its number and text.
-/

namespace Accessors

open Text

namespace DeclarationLine

inductive Words : Nat → Text → Prop
  | none (n : Nat) : Words n []
  | more {n : Nat} {blanks word rest : Text} (hblanks : ∀ c ∈ blanks, isBlank c = true)
      (hapart : blanks ≠ []) (hword : ∀ c ∈ word, isModifier c = true) (hword' : word ≠ [])
      (hrest : Words n rest) : Words (n + 1) (blanks ++ word ++ rest)

/-- A declaration line by its parts. The name is as long as it can be, since no character that ends
it may stand in it. -/
structure Form where
  margin : Text
  visibility : Visibility
  keyword : Text
  words : Text
  gap : Text
  name : Text
  stop : Char
  rest : Text
  margin_blank : ∀ c ∈ margin, isBlank c = true
  keyword_spells : keyword.map Char.toLower = visibility.keyword
  words_few : Words 2 words
  gap_blank : ∀ c ∈ gap, isBlank c = true
  name_variable : ∀ c ∈ name, isVariable c = true
  stop_ends : isEnd stop = true

namespace Form

def middle (form : Form) : Text :=
  form.words ++ form.gap ++ '$' :: form.name ++ [form.stop]

def fromKeyword (form : Form) : Text :=
  form.keyword ++ form.middle ++ form.rest

def line (form : Form) : Text :=
  form.margin ++ form.fromKeyword

end Form

theorem isVariable_of_isEnd {c : Char} (h : isEnd c = true) : isVariable c = false := by
  simp only [isEnd, isBlank, Bool.or_eq_true, beq_iff_eq] at h
  rcases h with (((rfl | rfl) | rfl) | rfl) | rfl <;> decide

theorem isModifier_of_isBlank {c : Char} (h : isBlank c = true) : isModifier c = false := by
  rw [isModifier, isSpace_of_isBlank h]
  rfl

theorem isBlank_of_isModifier {c : Char} (h : isModifier c = true) : isBlank c = false := by
  cases hc : isBlank c with
  | false => rfl
  | true =>
    rw [isModifier_of_isBlank hc] at h
    cases h

/-- A run of characters is dropped up to the first that does not belong to it. -/
theorem dropWhile_run {p : Char → Bool} {run t : Text} (hrun : ∀ c ∈ run, p c = true)
    (ht : ∀ c ∈ t.head?, p c = false) : (run ++ t).dropWhile p = t := by
  rw [List.dropWhile_append_of_pos hrun]
  cases t with
  | nil => rfl
  | cons c t => exact List.dropWhile_cons_of_neg (by simp [ht c rfl])

variable {n : Nat} {words gap t : Text}

/-- No word goes on where words end and a variable follows. -/
theorem Words.head?_append (hwords : Words n words) (hgap : ∀ c ∈ gap, isBlank c = true) :
    ∀ c ∈ (words ++ (gap ++ '$' :: t)).head?, isModifier c = false := by
  have hblank : ∀ {b u : Text}, b ≠ [] → (∀ c ∈ b, isBlank c = true) →
      ∀ c ∈ (b ++ u).head?, isModifier c = false := by
    intro b u hne hb c hc
    rw [List.head?_append_of_ne_nil _ hne] at hc
    exact isModifier_of_isBlank (hb c (List.mem_of_mem_head? hc))
  cases hwords with
  | none =>
    rw [List.nil_append]
    cases gap with
    | nil =>
      intro c hc
      obtain rfl := Option.some.inj hc
      decide
    | cons b gap => exact hblank (List.cons_ne_nil b gap) hgap
  | more hblanks hapart =>
    rw [List.append_assoc, List.append_assoc]
    exact hblank hapart hblanks

theorem Words.skipWords_append (hwords : Words n words) (hgap : ∀ c ∈ gap, isBlank c = true) :
    skipWords n (words ++ (gap ++ '$' :: t)) = gap ++ '$' :: t := by
  induction hwords with
  | none n =>
    cases n with
    | zero => rfl
    | succ n =>
      have hdrop : (gap ++ '$' :: t).dropWhile isBlank = '$' :: t :=
        dropWhile_run hgap (by simp [isBlank])
      have hstop : ('$' :: t).dropWhile isModifier = '$' :: t :=
        List.dropWhile_cons_of_neg (by decide)
      rw [List.nil_append, skipWords, hdrop, hstop, if_neg fun hlt => Nat.lt_irrefl _ hlt.2]
  | @more n blanks word rest hblanks hapart hword hword' hrest ih =>
    have hdrop : (blanks ++ (word ++ (rest ++ (gap ++ '$' :: t)))).dropWhile isBlank =
        word ++ (rest ++ (gap ++ '$' :: t)) := by
      apply dropWhile_run hblanks
      intro c hc
      rw [List.head?_append_of_ne_nil _ hword'] at hc
      exact isBlank_of_isModifier (hword c (List.mem_of_mem_head? hc))
    have hafter : (word ++ (rest ++ (gap ++ '$' :: t))).dropWhile isModifier =
        rest ++ (gap ++ '$' :: t) :=
      dropWhile_run hword (hrest.head?_append hgap)
    have hlengths := And.intro (List.length_pos_iff.mpr hapart) (List.length_pos_iff.mpr hword')
    rw [List.append_assoc, List.append_assoc, skipWords, hdrop, hafter, if_pos, ih]
    simp only [List.length_append]
    omega

/-- What is passed over are words. -/
theorem exists_words (n : Nat) (t : Text) :
    ∃ words, Words n words ∧ t = words ++ skipWords n t := by
  induction n generalizing t with
  | zero => exact ⟨[], .none 0, rfl⟩
  | succ n ih =>
    rw [skipWords]
    split
    · next hlt =>
      obtain ⟨words, hwords, hrest⟩ := ih ((t.dropWhile isBlank).dropWhile isModifier)
      have hblanks : t = t.takeWhile isBlank ++ t.dropWhile isBlank :=
        List.takeWhile_append_dropWhile.symm
      have hword : t.dropWhile isBlank = (t.dropWhile isBlank).takeWhile isModifier ++
          (t.dropWhile isBlank).dropWhile isModifier := List.takeWhile_append_dropWhile.symm
      refine ⟨t.takeWhile isBlank ++ (t.dropWhile isBlank).takeWhile isModifier ++ words,
        .more (fun c hc => List.mem_takeWhile_imp hc) ?_ (fun c hc => List.mem_takeWhile_imp hc) ?_
          hwords, ?_⟩
      · intro hnil
        rw [hnil, List.nil_append] at hblanks
        rw [← hblanks] at hlt
        exact Nat.lt_irrefl _ hlt.1
      · intro hnil
        rw [hnil, List.nil_append] at hword
        rw [← hword] at hlt
        exact Nat.lt_irrefl _ hlt.2
      · rw [List.append_assoc, ← hrest, List.append_assoc, ← hword, ← hblanks]
    · exact ⟨[], .none _, rfl⟩

/-- A line of the grammar is read, and its parts are found. -/
theorem read?_line (form : Form) : read? form.line =
    some ⟨form.visibility, form.keyword ++ form.middle ++ dropLineEnd form.rest⟩ := by
  have hvariable : afterVariable? (form.gap ++ '$' :: (form.name ++ form.stop :: form.rest)) =
      some form.rest := by
    refine afterVariable?_eq_some_iff.mpr
      ⟨form.name ++ form.stop :: form.rest, form.stop, ?_, ?_, form.stop_ends⟩
    · exact dropWhile_run form.gap_blank (by simp [isBlank])
    · exact dropWhile_run form.name_variable (by simp [isVariable_of_isEnd form.stop_ends])
  have hparts : form.middle ++ form.rest =
      form.words ++ (form.gap ++ '$' :: (form.name ++ form.stop :: form.rest)) := by
    simp [Form.middle]
  have hline : form.line = form.margin ++ form.keyword ++ (form.middle ++ form.rest) := by
    simp [Form.line, Form.fromKeyword]
  have htake : (form.middle ++ form.rest).take
      ((form.middle ++ form.rest).length - form.rest.length) = form.middle := by
    rw [List.length_append, Nat.add_sub_cancel, List.take_left]
  rw [hline, read?_of_keyword form.margin_blank form.keyword_spells]
  conv_lhs => rw [hparts, form.words_few.skipWords_append form.gap_blank, hvariable, ← hparts]
  rw [Option.map_some, htake, List.append_assoc]

/-- A line that is read is a line of the grammar. -/
theorem exists_form {line : Text} (h : (read? line).isSome) : ∃ form : Form, form.line = line := by
  obtain ⟨v, t, hv, ht⟩ := isSome_read?_iff.mp h
  obtain ⟨k, hk, hspells⟩ := Visibility.read?_eq_some_iff.mp hv
  obtain ⟨words, hwords, hrest⟩ := exists_words 2 t
  obtain ⟨tail, htail⟩ := Option.isSome_iff_exists.mp ht
  obtain ⟨u, c, hu, hc, hend⟩ := afterVariable?_eq_some_iff.mp htail
  refine ⟨{
    margin := line.takeWhile isBlank
    visibility := v
    keyword := k
    words := words
    gap := (skipWords 2 t).takeWhile isBlank
    name := u.takeWhile isVariable
    stop := c
    rest := tail
    margin_blank := fun c hc => List.mem_takeWhile_imp hc
    keyword_spells := hspells
    words_few := hwords
    gap_blank := fun c hc => List.mem_takeWhile_imp hc
    name_variable := fun c hc => List.mem_takeWhile_imp hc
    stop_ends := hend }, ?_⟩
  calc
    _ = line.takeWhile isBlank ++ (k ++ (words ++ ((skipWords 2 t).takeWhile isBlank ++
          '$' :: (u.takeWhile isVariable ++ c :: tail)))) := by
      simp [Form.line, Form.fromKeyword, Form.middle]
    _ = line := by
      rw [← hc, List.takeWhile_append_dropWhile, ← hu, List.takeWhile_append_dropWhile, ← hrest,
        ← hk, List.takeWhile_append_dropWhile]

def HasForm (line : Text) : Prop :=
  ∃ form : Form, form.line = line

theorem isSome_read?_iff_hasForm {line : Text} : (read? line).isSome = true ↔ HasForm line := by
  constructor
  · exact exists_form
  · rintro ⟨form, rfl⟩
    rw [read?_line]
    rfl

instance (line : Text) : Decidable (HasForm line) :=
  decidable_of_iff _ isSome_read?_iff_hasForm

-- A blank at the end of a line ends the name, a carriage return does not.
example : HasForm "\tPROTECTED static ?int$size " ∧ ¬HasForm "protected static ?int $size\r" := by
  decide

/-- What may follow the text of a line: blanks, and at most one carriage return after them. -/
inductive IsLineEnd : Text → Prop
  | plain {blanks : Text} (h : ∀ c ∈ blanks, isBlank c = true) : IsLineEnd blanks
  | returned {blanks : Text} (h : ∀ c ∈ blanks, isBlank c = true) : IsLineEnd (blanks ++ ['\r'])

structure IsLongestEnd (tail t : Text) : Prop where
  suffix : tail <:+ t
  isLineEnd : IsLineEnd tail
  longest : ∀ s, s <:+ t → IsLineEnd s → s.length ≤ tail.length

/-- Only the last character of a line end may be a carriage return. -/
theorem IsLineEnd.blank_or_return {before after : Text} {c : Char}
    (h : IsLineEnd (before ++ c :: after)) : isBlank c = true ∨ c = '\r' ∧ after = [] := by
  generalize hs : before ++ c :: after = s at h
  cases h with
  | plain h => exact .inl (h c (hs ▸ by simp))
  | @returned blanks h =>
    rcases List.eq_nil_or_concat after with rfl | ⟨middle, d, rfl⟩
    · exact .inr ⟨(List.append_singleton_inj.mp hs).2, rfl⟩
    · rw [List.concat_eq_append, ← List.cons_append, ← List.append_assoc] at hs
      have hblanks := (List.append_singleton_inj.mp hs).1
      exact .inl (h c (hblanks ▸ by simp))

/-- An end is the longest one if the character before it cannot belong to one. -/
theorem isLongestEnd_append {body tail : Text} (htail : IsLineEnd tail)
    (hbody : ∀ c ∈ body.getLast?, isBlank c = false ∧ (tail = [] → c ≠ '\r')) :
    IsLongestEnd tail (body ++ tail) := by
  refine ⟨List.suffix_append body tail, htail, fun s hs hend => ?_⟩
  rcases List.suffix_or_suffix_of_suffix hs (List.suffix_append body tail) with hle | ⟨x, rfl⟩
  · exact hle.length_le
  · rcases List.eq_nil_or_concat x with rfl | ⟨y, c, rfl⟩
    · exact Nat.le_refl _
    · obtain ⟨a, ha⟩ := hs
      rw [← List.append_assoc] at ha
      have hlast : c ∈ body.getLast? := by
        rw [← List.append_cancel_right ha]
        simp
      obtain ⟨hblank, hreturn⟩ := hbody c hlast
      rw [List.concat_eq_append, List.append_assoc] at hend
      rcases hend.blank_or_return with hc | ⟨hc, hnil⟩
      · rw [hblank] at hc
        cases hc
      · exact absurd hc (hreturn hnil)

theorem dropLineEnd_append_return (t : Text) :
    dropLineEnd (t ++ ['\r']) = dropTrailing isBlank t := by
  rw [dropLineEnd, List.reverse_append]
  rfl

theorem dropLineEnd_of_getLast? {t : Text} (h : '\r' ∉ t.getLast?) :
    dropLineEnd t = dropTrailing isBlank t := by
  rw [dropLineEnd]
  split
  · next r hr =>
    rw [← List.head?_reverse, hr] at h
    exact absurd rfl h
  · rfl

/-- What is dropped at the end of a line is the longest end that it has. -/
theorem exists_longestEnd (t : Text) : ∃ tail, dropLineEnd t ++ tail = t ∧ IsLongestEnd tail t := by
  by_cases hreturn : '\r' ∈ t.getLast?
  · obtain ⟨u, rfl⟩ := List.getLast?_eq_some_iff.mp hreturn
    obtain ⟨w, hu, hw, hlast⟩ := exists_dropTrailing_append isBlank u
    have ht : u ++ ['\r'] = dropTrailing isBlank u ++ (w ++ ['\r']) := by
      rw [← List.append_assoc, ← hu]
    refine ⟨w ++ ['\r'], by rw [dropLineEnd_append_return, ht], ?_⟩
    rw [ht]
    exact isLongestEnd_append (.returned hw) fun c hc => ⟨hlast c hc, by simp⟩
  · obtain ⟨w, ht, hw, hlast⟩ := exists_dropTrailing_append isBlank t
    refine ⟨w, by rw [dropLineEnd_of_getLast? hreturn, ← ht], ?_⟩
    have hbody : ∀ c ∈ (dropTrailing isBlank t).getLast?,
        isBlank c = false ∧ (w = [] → c ≠ '\r') := by
      refine fun c hc => ⟨hlast c hc, ?_⟩
      rintro rfl rfl
      rw [List.append_nil] at ht
      exact hreturn (ht ▸ hc)
    have hlongest := isLongestEnd_append (.plain hw) hbody
    rwa [← ht] at hlongest

/-- A dollar sign that the start of a name follows. -/
def ShowsName (t : Text) : Prop :=
  ∃ before c after, t = before ++ '$' :: c :: after ∧ isNameStart c = true

theorem showsName_cons_iff {c : Char} {t : Text} :
    ShowsName (c :: t) ↔ (c = '$' ∧ ∃ d u, t = d :: u ∧ isNameStart d = true) ∨ ShowsName t := by
  constructor
  · rintro ⟨before, d, after, ht, hd⟩
    cases before with
    | nil =>
      obtain ⟨hc, hu⟩ := List.cons.inj ht
      exact .inl ⟨hc, d, after, hu, hd⟩
    | cons b before => exact .inr ⟨before, d, after, (List.cons.inj ht).2, hd⟩
  · rintro (⟨rfl, d, u, rfl, hd⟩ | ⟨before, d, after, rfl, hd⟩)
    · exact ⟨[], d, u, rfl, hd⟩
    · exact ⟨c :: before, d, after, rfl, hd⟩

theorem isSome_name?_iff {t : Text} : (name? t).isSome = true ↔ ShowsName t := by
  fun_induction name? t with
  | case1 c rest hc => simp [showsName_cons_iff, hc]
  | case2 c rest hc ih =>
    rw [ih, showsName_cons_iff (c := '$')]
    simp [hc]
  | case3 c rest hne ih =>
    rw [ih, showsName_cons_iff (c := c)]
    constructor
    · exact .inr
    · rintro (⟨hc, d, u, hu, -⟩ | h)
      · exact absurd hu (hne d u hc)
      · exact h
  | case4 =>
    constructor
    · intro h
      cases h
    · rintro ⟨before, c, after, ht, -⟩
      simp at ht

end DeclarationLine

open DeclarationLine

namespace Finding

def text : Finding → Text
  | member d => d.text
  | nameless s => s.text

/-- What a finding says about a line of the grammar: its number, its text without the longest end,
whether the text shows a name, and if so the visibility that its keyword spells. -/
structure Reports (form : Form) (number : Nat) (f : Finding) : Prop where
  line_eq : f.line = number
  text_eq : ∃ tail, f.text ++ tail = form.fromKeyword ∧ IsLongestEnd tail form.rest
  isSome_declaration?_iff : f.declaration?.isSome = true ↔ ShowsName f.text
  visibility_eq : ∀ d ∈ f.declaration?, d.visibility = form.visibility

theorem exists_read?_line (form : Form) (above : List Text) :
    ∃ f, read? above form.line = some f ∧ Reports form (above.length + 1) f := by
  obtain ⟨tail, htail, hlongest⟩ := exists_longestEnd form.rest
  have htext : form.keyword ++ form.middle ++ dropLineEnd form.rest ++ tail = form.fromKeyword := by
    rw [List.append_assoc, htail, Form.fromKeyword]
  have hname := @isSome_name?_iff (form.keyword ++ form.middle ++ dropLineEnd form.rest)
  rw [read?, read?_line, Option.map_some]
  cases h : name? (form.keyword ++ form.middle ++ dropLineEnd form.rest) with
  | some name =>
    rw [h] at hname
    refine ⟨_, rfl, rfl, ⟨tail, htext, hlongest⟩, hname, fun d hd => ?_⟩
    rw [← Option.some.inj hd]
  | none =>
    rw [h] at hname
    exact ⟨_, rfl, rfl, ⟨tail, htext, hlongest⟩, hname, by simp [declaration?]⟩

theorem read?_eq_none_iff {above : List Text} {line : Text} :
    read? above line = none ↔ ¬HasForm line := by
  rw [read?, Option.map_eq_none_iff, ← isSome_read?_iff_hasForm, Option.not_isSome_iff_eq_none]

/-- The findings of lines are those of the lines that have the form of a declaration. -/
theorem forall₂_readAll (above ls : List Text) :
    List.Forall₂ (fun line f => ∀ form : Form, form.line = line.1 → Reports form line.2 f)
      ((ls.zipIdx (above.length + 1)).filter fun line => HasForm line.1) (readAll above ls) := by
  induction ls generalizing above with
  | nil => exact .nil
  | cons line ls ih =>
    have hrest := ih (line :: above)
    rw [List.zipIdx_cons, readAll]
    by_cases hform : HasForm line
    · obtain ⟨form, rfl⟩ := hform
      obtain ⟨f, hf, -⟩ := exists_read?_line form above
      rw [List.filter_cons_of_pos (by simpa using ⟨form, rfl⟩), hf]
      refine .cons (fun form' hform' => ?_) hrest
      obtain ⟨f', hf', hreports⟩ := exists_read?_line form' above
      rw [hform', hf] at hf'
      rwa [Option.some.inj hf']
    · rw [List.filter_cons_of_neg (by simpa using hform), read?_eq_none_iff.mpr hform]
      exact hrest

theorem pairwise_readAll (above ls : List Text) :
    (readAll above ls).Pairwise fun f f' => f.line < f'.line := by
  induction ls generalizing above with
  | nil => exact .nil
  | cons line ls ih =>
    rw [readAll]
    cases h : read? above line with
    | none => exact ih (line :: above)
    | some f =>
      refine List.pairwise_cons.mpr ⟨fun f' hf' => ?_, ih (line :: above)⟩
      rw [line_of_read? h]
      exact length_lt_line_of_mem_readAll hf'

end Finding

theorem merge_cons_left {α : Type} {le : α → α → Bool} {x : α} {xs ys : List α}
    (h : ∀ y ∈ ys, le x y = true) : (x :: xs).merge ys le = x :: xs.merge ys le := by
  cases ys with
  | nil => rw [List.merge_right, List.merge_right]
  | cons y ys => exact List.cons_merge_cons_pos le xs ys (h y List.mem_cons_self)

theorem merge_cons_right {α : Type} {le : α → α → Bool} {y : α} {xs ys : List α}
    (h : ∀ x ∈ xs, le x y = false) : xs.merge (y :: ys) le = y :: xs.merge ys le := by
  cases xs with
  | nil => rw [List.nil_merge, List.nil_merge]
  | cons x xs =>
    exact List.cons_merge_cons_neg le xs ys (Bool.eq_false_iff.mp (h x List.mem_cons_self))

namespace Survey

/-- The members and the skipped lines of a survey, merged by the numbers of their lines. -/
def entries (s : Survey) : List Finding :=
  List.merge (s.declarations.map .member) (s.skipped.map .nameless) fun f f' => f.line ≤ f'.line

variable {fs : List Finding} {f : Finding}

theorem mem_of_mem_declarations (h : f ∈ (ofFindings fs).declarations.map Finding.member) :
    f ∈ fs := by
  obtain ⟨d, hd, rfl⟩ := List.mem_map.mp h
  obtain ⟨f, hf, hfd⟩ := List.mem_filterMap.mp hd
  cases f with
  | member d' => rwa [← Option.some.inj hfd]
  | nameless s => cases hfd

theorem mem_of_mem_skipped (h : f ∈ (ofFindings fs).skipped.map Finding.nameless) : f ∈ fs := by
  obtain ⟨s, hs, rfl⟩ := List.mem_map.mp h
  obtain ⟨f, hf, hfs⟩ := List.mem_filterMap.mp hs
  cases f with
  | member d => cases hfs
  | nameless s' => rwa [← Option.some.inj hfs]

/-- Findings in the order of their lines are found again by merging. -/
theorem entries_ofFindings (h : fs.Pairwise fun f f' => f.line < f'.line) :
    (ofFindings fs).entries = fs := by
  induction fs with
  | nil => simp [entries, ofFindings]
  | cons f fs ih =>
    obtain ⟨hf, hfs⟩ := List.pairwise_cons.mp h
    conv_rhs => rw [← ih hfs]
    cases f with
    | member d =>
      refine merge_cons_left fun f' hf' => decide_eq_true ?_
      exact Nat.le_of_lt (hf f' (mem_of_mem_skipped hf'))
    | nameless s =>
      refine merge_cons_right fun f' hf' => decide_eq_false ?_
      exact Nat.not_le_of_lt (hf f' (mem_of_mem_declarations hf'))

end Survey

/-- A survey accepts exactly the lines of the grammar: its entries, merged by line, are in order
those of the lines that have the form of a declaration, and each reports its line. -/
theorem survey_follows_line_grammar (source : Text) :
    List.Forall₂ (fun line f => ∀ form : Form, form.line = line.1 → f.Reports form line.2)
      (((lines source).zipIdx 1).filter fun line => HasForm line.1)
      (Survey.ofSource source).entries := by
  rw [Survey.ofSource, Finding.ofSource,
    Survey.entries_ofFindings (Finding.pairwise_readAll [] (lines source))]
  exact Finding.forall₂_readAll [] (lines source)

end Accessors

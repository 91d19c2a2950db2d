import Accessors.Proofs.IgnoredVisibility
import Accessors.Proofs.LineGrammar
import Mathlib.Data.List.Nodup

/-!
# The variable that a line declares

The variable of a declaration line follows its first dollar sign, but the name of the member is
sought again in the whole line. Where no identifier follows the first dollar sign, the line is
skipped only if none follows a later one either; otherwise it is taken to declare that later one.
-/

namespace Accessors

open Text DeclarationLine

/-- An identifier: an ASCII letter or an underscore, and word characters after it. -/
def isIdentifier : Text → Bool
  | [] => false
  | c :: rest => isNameStart c && rest.all isWord

structure IsLongestIdentifier (name t : Text) : Prop where
  begins : name <+: t
  isIdentifier : isIdentifier name = true
  longest : ∀ n, n <+: t → Accessors.isIdentifier n = true → n.length ≤ name.length

def startsName (t : Text) : Bool :=
  t.head?.any isNameStart

theorem startsName_of_isIdentifier {name t : Text} (h : isIdentifier name = true)
    (hname : name <+: t) : startsName t = true := by
  obtain ⟨rest, rfl⟩ := hname
  cases name with
  | nil => cases h
  | cons c name =>
    rw [isIdentifier, Bool.and_eq_true] at h
    exact h.1

/-- Word characters are read as far as they go. -/
theorem isLongestIdentifier_takeWhile {c : Char} (h : isNameStart c = true) (rest : Text) :
    IsLongestIdentifier (c :: rest.takeWhile isWord) (c :: rest) where
  begins := List.cons_prefix_cons.mpr ⟨rfl, List.takeWhile_prefix isWord⟩
  isIdentifier := by
    rw [isIdentifier, h, Bool.true_and, List.all_eq_true]
    exact fun d hd => List.mem_takeWhile_imp hd
  longest := by
    rintro (_ | ⟨d, n⟩) hn hid
    · cases hid
    · rw [Accessors.isIdentifier, Bool.and_eq_true, List.all_eq_true] at hid
      obtain ⟨u, rfl⟩ := (List.cons_prefix_cons.mp hn).2
      rw [List.takeWhile_append_of_pos hid.2]
      simp

namespace DeclarationLine

theorem name?_of_startsName {t : Text} (h : startsName t = true) :
    ∃ name, name? ('$' :: t) = some name ∧ IsLongestIdentifier name t := by
  cases t with
  | nil => cases h
  | cons c t =>
    have hc : isNameStart c = true := h
    exact ⟨_, by rw [name?, if_pos hc], isLongestIdentifier_takeWhile hc t⟩

theorem name?_of_not_startsName {t : Text} (h : startsName t = false) :
    name? ('$' :: t) = name? t := by
  cases t with
  | nil => rfl
  | cons c t =>
    rw [name?, if_neg]
    rw [Bool.not_eq_true]
    exact h

/-- The name is the identifier behind the first dollar sign that one follows. -/
theorem exists_of_name? {t name : Text} (h : name? t = some name) :
    ∃ before after, t = before ++ '$' :: after ∧ ¬ShowsName before ∧
      IsLongestIdentifier name after := by
  have hnil : ¬ShowsName [] := by
    rintro ⟨before, c, after, hb, -⟩
    simp at hb
  fun_induction name? t with
  | case1 c rest hc =>
    obtain rfl := Option.some.inj h
    exact ⟨[], c :: rest, rfl, hnil, isLongestIdentifier_takeWhile hc rest⟩
  | case2 c rest hc ih =>
    obtain ⟨before, after, hb, hshows, hname⟩ := ih h
    refine ⟨'$' :: before, after, by rw [hb]; rfl, ?_, hname⟩
    rw [showsName_cons_iff]
    rintro (⟨-, d, u, rfl, hd⟩ | hb')
    · obtain rfl := (List.cons.inj hb).1
      exact hc hd
    · exact hshows hb'
  | case3 c rest hne ih =>
    obtain ⟨before, after, hb, hshows, hname⟩ := ih h
    refine ⟨c :: before, after, by rw [hb]; rfl, ?_, hname⟩
    rw [showsName_cons_iff]
    rintro (⟨rfl, d, u, rfl, -⟩ | hb')
    · rw [hb] at hne
      exact hne d (u ++ '$' :: after) rfl rfl
    · exact hshows hb'
  | case4 => cases h

theorem showsName_dollar_iff {t : Text} (h : startsName t = false) :
    ShowsName ('$' :: t) ↔ ShowsName t := by
  rw [← isSome_name?_iff, ← isSome_name?_iff, name?_of_not_startsName h]

theorem Words.dollar_notMem {n : Nat} {words : Text} (h : Words n words) : '$' ∉ words := by
  induction h with
  | none n => exact List.not_mem_nil
  | more hblanks hapart hword hword' hrest ih =>
    simp only [List.mem_append, not_or]
    refine ⟨⟨fun hmem => ?_, fun hmem => ?_⟩, ih⟩
    · exact absurd (hblanks _ hmem) (by decide)
    · exact absurd (hword _ hmem) (by decide)

namespace Form

/-- The line from its keyword to its dollar sign. -/
def beforeDollar (form : Form) : Text :=
  form.keyword ++ form.words ++ form.gap

/-- The line from its dollar sign on, without its end. -/
def afterDollar (form : Form) : Text :=
  form.name ++ form.stop :: dropLineEnd form.rest

theorem dollar_notMem_beforeDollar (form : Form) : '$' ∉ form.beforeDollar := by
  simp only [beforeDollar, List.mem_append, not_or]
  refine ⟨⟨Visibility.dollar_notMem form.keyword_spells, form.words_few.dollar_notMem⟩, ?_⟩
  exact fun hmem => absurd (form.gap_blank _ hmem) (by decide)

def text (form : Form) : Text :=
  form.beforeDollar ++ '$' :: form.afterDollar

theorem read?_line_eq (form : Form) : read? form.line = some ⟨form.visibility, form.text⟩ := by
  rw [read?_line]
  simp [text, beforeDollar, afterDollar, middle]

theorem name?_text (form : Form) : name? form.text = name? ('$' :: form.afterDollar) :=
  name?_append form.dollar_notMem_beforeDollar _

end Form

end DeclarationLine

namespace Finding

/-- A line contributes what is read from it, below the lines before it. -/
theorem mem_readAll_of_mem_zipIdx {above ls : List Text} {line : Text} {n : Nat}
    (h : (line, n) ∈ ls.zipIdx (above.length + 1)) :
    ∃ above', above'.length + 1 = n ∧ ∀ f ∈ read? above' line, f ∈ readAll above ls := by
  induction ls generalizing above with
  | nil => cases h
  | cons l ls ih =>
    rw [List.zipIdx_cons, List.mem_cons] at h
    rw [readAll]
    rcases h with heq | hrest
    · obtain ⟨rfl, rfl⟩ := Prod.mk.inj heq
      exact ⟨above, rfl, fun f hf => List.mem_append_left _ (Option.mem_toList.mpr hf)⟩
    · obtain ⟨above', hlength, hmem⟩ := @ih (l :: above) hrest
      exact ⟨above', hlength, fun f hf => List.mem_append_right _ (hmem f hf)⟩

/-- No line is found twice. -/
theorem eq_of_line_eq {above ls : List Text} {f f' : Finding} (hf : f ∈ readAll above ls)
    (hf' : f' ∈ readAll above ls) (h : f.line = f'.line) : f = f' := by
  have hnodup : ((readAll above ls).map line).Nodup :=
    List.pairwise_map.mpr ((pairwise_readAll above ls).imp Nat.ne_of_lt)
  exact List.inj_on_of_nodup_map hnodup hf hf' h

end Finding

namespace Survey

variable {source : Text}

/-- A declared member comes from a line of the grammar, whose text gives its name. -/
theorem exists_form_of_mem_declarations {d : Declaration}
    (h : d ∈ (ofSource source).declarations) :
    ∃ form : Form, d.text = form.text ∧ name? ('$' :: form.afterDollar) = some d.name := by
  have hmem := mem_of_mem_declarations (List.mem_map_of_mem (f := Finding.member) h)
  obtain ⟨above, line, hread, -⟩ := Finding.exists_read?_of_mem_readAll hmem
  obtain ⟨l, hl, hd⟩ := Option.map_eq_some_iff.mp hread
  obtain ⟨form, rfl⟩ := exists_form (Option.isSome_of_eq_some hl)
  obtain rfl := Option.some.inj (form.read?_line_eq.symm.trans hl)
  refine ⟨form, ?_⟩
  rw [← form.name?_text]
  split at hd
  · next name hname =>
    obtain rfl := Finding.member.inj hd
    exact ⟨rfl, hname⟩
  · cases hd

/-- A line of the grammar is skipped just if no dollar sign of its text shows a name. -/
theorem mem_skipped_iff {form : Form} {n : Nat} (h : (form.line, n) ∈ (lines source).zipIdx 1) :
    ⟨n, form.text⟩ ∈ (ofSource source).skipped ↔ ¬ShowsName form.text := by
  obtain ⟨above, rfl, hfound⟩ := @Finding.mem_readAll_of_mem_zipIdx [] _ _ _ h
  rw [← isSome_name?_iff, Option.not_isSome_iff_eq_none]
  have hread := form.read?_line_eq
  constructor
  · intro hmem
    have hskipped := mem_of_mem_skipped (List.mem_map_of_mem (f := Finding.nameless) hmem)
    cases hname : name? form.text with
    | none => rfl
    | some name =>
      have hmember : Finding.read? above form.line = some (.member ⟨name, form.visibility,
          (DocBlock.above? above).map DocComment.parse, above.length + 1, form.text⟩) := by
        simp only [Finding.read?, hread, Option.map_some, hname]
      have heq := Finding.eq_of_line_eq hskipped (hfound _ hmember) rfl
      cases heq
  · intro hname
    have hnameless : Finding.read? above form.line =
        some (.nameless ⟨above.length + 1, form.text⟩) := by
      simp only [Finding.read?, hread, Option.map_some, hname]
    exact List.mem_filterMap.mpr ⟨_, hfound _ hnameless, rfl⟩

end Survey

/-- The name of a declared member is the identifier behind the first dollar sign of its text just if
one follows there, and else that behind the first later dollar sign that one follows. A line
of the grammar without an identifier behind its first dollar sign is skipped just if none follows a
later one. -/
theorem survey_names_first_variable_iff (source : Text) :
    (∀ d ∈ (Survey.ofSource source).declarations, ∃ before after,
        d.text = before ++ '$' :: after ∧ '$' ∉ before ∧
          (IsLongestIdentifier d.name after ↔ startsName after = true) ∧
          (startsName after = false → ∃ before' after', after = before' ++ '$' :: after' ∧
            ¬ShowsName before' ∧ IsLongestIdentifier d.name after')) ∧
      ∀ form : Form, ∀ n, (form.line, n) ∈ (lines source).zipIdx 1 → ∃ before after tail,
        form.fromKeyword = before ++ '$' :: after ++ tail ∧ '$' ∉ before ∧
          IsLongestEnd tail form.rest ∧
          (startsName after = false →
            (⟨n, before ++ '$' :: after⟩ ∈ (Survey.ofSource source).skipped ↔
              ¬ShowsName after)) := by
  refine ⟨fun d hd => ?_, fun form n hline => ?_⟩
  · obtain ⟨form, htext, hname⟩ := Survey.exists_form_of_mem_declarations hd
    refine ⟨form.beforeDollar, form.afterDollar, htext, form.dollar_notMem_beforeDollar,
      ⟨fun h => startsName_of_isIdentifier h.isIdentifier h.begins, fun h => ?_⟩, fun h => ?_⟩
    · obtain ⟨name, hname', hlongest⟩ := name?_of_startsName h
      rwa [Option.some.inj (hname.symm.trans hname')]
    · rw [name?_of_not_startsName h] at hname
      exact exists_of_name? hname
  · obtain ⟨tail, htail, hlongest⟩ := exists_longestEnd form.rest
    refine ⟨form.beforeDollar, form.afterDollar, tail, ?_, form.dollar_notMem_beforeDollar,
      hlongest, fun h => ?_⟩
    · rw [Form.fromKeyword, ← htail]
      simp [Form.beforeDollar, Form.afterDollar, Form.middle]
    · have hskipped := Survey.mem_skipped_iff hline
      rw [← isSome_name?_iff, form.name?_text, isSome_name?_iff, showsName_dollar_iff h] at hskipped
      exact hskipped

/-- A class with two malformed variables, the first of which is given the value of another. -/
def borrowingClass : Text :=
  "class Box \x7b\n    private $1abc = $foo;\n    private $2abc;\n\x7d\n"

/-- The variable on the right of a malformed one is reported as a member, its line not skipped. -/
theorem borrowingClass_declares_value :
    (Survey.ofSource borrowingClass).declarations =
        [⟨"foo", .isPrivate, none, 2, "private $".toList ++ "1abc = $foo;".toList⟩] ∧
      (Survey.ofSource borrowingClass).skipped = [⟨3, "private $2abc;"⟩] ∧
      ¬"foo".toList <+: "1abc = $foo;".toList := by
  refine ⟨?_, ?_, ?_⟩ <;> decide

end Accessors

import Accessors.Proofs.NameCharacters

/-!
# Lines that declare members, and lines that do not

A line declares a member only if it begins, after blanks, with a visibility, and only if a variable
follows within three words. The lines of a method never do, and a line that does still does with
more text at its end.
-/

namespace Accessors

open Text

theorem eq_of_toLower_eq_p {c : Char} (h : c.toLower = 'p') : c = 'p' ∨ c = 'P' := by
  unfold Char.toLower at h
  split at h
  · have hval : c.val + ('a'.val - 'A'.val) = 'p'.val := congrArg Char.val h
    have hcode : c.val = 'p'.val - ('a'.val - 'A'.val) := by
      rw [← hval, UInt32.add_sub_cancel]
    exact .inr (Char.ext hcode)
  · exact .inl h

theorem isSpace_of_isBlank {c : Char} (h : isBlank c = true) : isSpace c = true := by
  rw [isBlank, Bool.or_eq_true, beq_iff_eq, beq_iff_eq] at h
  rcases h with rfl | rfl <;> decide

namespace Visibility

theorem keyword_isPublic : keyword .isPublic = ['p', 'u', 'b', 'l', 'i', 'c'] := rfl

theorem keyword_isProtected :
    keyword .isProtected = ['p', 'r', 'o', 't', 'e', 'c', 't', 'e', 'd'] := rfl

theorem keyword_isPrivate : keyword .isPrivate = ['p', 'r', 'i', 'v', 'a', 't', 'e'] := rfl

theorem read?_eq_some_iff {t rest : Text} {v : Visibility} :
    read? t = some (v, rest) ↔ ∃ k, t = k ++ rest ∧ k.map Char.toLower = v.keyword := by
  constructor
  · intro h
    obtain ⟨w, -, hw⟩ := List.exists_of_findSome?_eq_some h
    dsimp only at hw
    split at hw
    · next hk =>
      obtain ⟨rfl, rfl⟩ := Prod.mk.inj (Option.some.inj hw)
      exact ⟨t.take w.keyword.length, (List.take_append_drop _ t).symm, hk⟩
    · cases hw
  · rintro ⟨k, rfl, hk⟩
    have hlength : k.length = v.keyword.length := by rw [← hk, List.length_map]
    -- No keyword begins another, so the search passes over the ones before `v`.
    have htest : ∀ w : Visibility,
        ((k ++ rest).take w.keyword.length).map Char.toLower = w.keyword ↔ w = v := by
      intro w
      rw [List.map_take, List.map_append, hk]
      cases v <;> cases w <;>
        simp [keyword_isPublic, keyword_isProtected, keyword_isPrivate]
    have hdrop : (k ++ rest).drop v.keyword.length = rest := List.drop_left' hlength
    rw [read?]
    simp only [htest]
    cases v <;> simp [all, hdrop]

/-- A last character that no keyword holds is part of what follows the keyword. -/
theorem read?_concat {c : Char} (hc : ∀ v : Visibility, c.toLower ∉ v.keyword) (t : Text) :
    read? (t ++ [c]) = (read? t).map fun (v, rest) => (v, rest ++ [c]) := by
  cases h : read? t with
  | some p =>
    obtain ⟨v, rest⟩ := p
    obtain ⟨k, rfl, hk⟩ := read?_eq_some_iff.mp h
    exact read?_eq_some_iff.mpr ⟨k, List.append_assoc k rest [c], hk⟩
  | none =>
    rw [Option.map_none, Option.eq_none_iff_forall_ne_some]
    rintro ⟨v, rest⟩ hv
    obtain ⟨k, ht, hk⟩ := read?_eq_some_iff.mp hv
    have hend : c ∉ k := fun hmem => hc v (hk ▸ List.mem_map_of_mem hmem)
    rcases List.append_eq_append_iff.mp ht with ⟨x, rfl, hx⟩ | ⟨x, rfl, -⟩
    · cases x with
      | nil =>
        rw [List.append_nil] at hk
        rw [read?_eq_some_iff.mpr ⟨t, (List.append_nil t).symm, hk⟩] at h
        cases h
      | cons d x =>
        obtain ⟨rfl, -⟩ := List.cons.inj hx
        exact hend (by simp)
    · rw [read?_eq_some_iff.mpr ⟨k, rfl, hk⟩] at h
      cases h

/-- Every keyword begins with the same letter. -/
theorem read?_eq_none {c : Char} (h : c.toLower ≠ 'p') (t : Text) : read? (c :: t) = none := by
  rw [Option.eq_none_iff_forall_ne_some]
  rintro ⟨v, rest⟩ hv
  obtain ⟨k, hk, hlower⟩ := read?_eq_some_iff.mp hv
  cases k with
  | nil => cases v <;> cases hlower
  | cons d k =>
    obtain ⟨rfl, -⟩ := List.cons.inj hk
    cases v <;> exact h (List.cons.inj hlower).1

variable {v : Visibility} {k : Text}

theorem exists_cons_of_keyword (hk : k.map Char.toLower = v.keyword) :
    ∃ c t, k = c :: t ∧ (c = 'p' ∨ c = 'P') := by
  cases k with
  | nil => cases v <;> cases hk
  | cons c t =>
    refine ⟨c, t, rfl, eq_of_toLower_eq_p ?_⟩
    cases v <;> exact (List.cons.inj hk).1

theorem dollar_notMem (hk : k.map Char.toLower = v.keyword) : '$' ∉ k := by
  intro hmem
  have hlower : '$'.toLower ∈ v.keyword := hk ▸ List.mem_map_of_mem hmem
  revert hlower
  cases v <;> decide

theorem dropWhile_isBlank {margin : Text} (hmargin : ∀ c ∈ margin, isBlank c = true)
    (hk : k.map Char.toLower = v.keyword) (rest : Text) :
    (margin ++ k ++ rest).dropWhile isBlank = k ++ rest := by
  obtain ⟨c, t, rfl, hc⟩ := exists_cons_of_keyword hk
  have hblank : isBlank c = false := by
    rcases hc with rfl | rfl <;> rfl
  rw [List.append_assoc, List.dropWhile_append_of_pos hmargin]
  exact List.dropWhile_cons_of_neg (by simp [hblank])

end Visibility

namespace DeclarationLine

theorem dropWhile_append_of_ne_nil {p : Char → Bool} {t : Text} (h : t.dropWhile p ≠ [])
    (q : Text) : (t ++ q).dropWhile p = t.dropWhile p ++ q := by
  rw [List.dropWhile_append, if_neg (by simpa using h)]

theorem isSome_read?_iff {line : Text} :
    (read? line).isSome ↔ ∃ v t, Visibility.read? (line.dropWhile isBlank) = some (v, t) ∧
      (afterVariable? (skipWords 2 t)).isSome := by
  rw [read?]
  cases hv : Visibility.read? (line.dropWhile isBlank) with
  | none => simp
  | some p =>
    obtain ⟨v, t⟩ := p
    cases ha : afterVariable? (skipWords 2 t) with
    | none => simp [ha]
    | some rest => simp [ha]

theorem afterVariable?_eq_some_iff {t rest : Text} :
    afterVariable? t = some rest ↔ ∃ name c, t.dropWhile isBlank = '$' :: name ∧
      name.dropWhile isVariable = c :: rest ∧ isEnd c = true := by
  constructor
  · intro h
    rw [afterVariable?] at h
    split at h
    · next name hname =>
      split at h
      · next c r hr =>
        split at h
        · next hc =>
          obtain rfl := Option.some.inj h
          exact ⟨name, c, hname, hr, hc⟩
        · cases h
      · cases h
    · cases h
  · rintro ⟨name, c, hname, hr, hc⟩
    simp [afterVariable?, hname, hr, hc]

theorem afterVariable?_append {t rest : Text} (h : afterVariable? t = some rest) (q : Text) :
    afterVariable? (t ++ q) = some (rest ++ q) := by
  obtain ⟨name, c, hname, hr, hc⟩ := afterVariable?_eq_some_iff.mp h
  refine afterVariable?_eq_some_iff.mpr ⟨name ++ q, c, ?_, ?_, hc⟩
  · rw [dropWhile_append_of_ne_nil (by simp [hname]), hname]
    rfl
  · rw [dropWhile_append_of_ne_nil (by simp [hr]), hr]
    rfl

theorem skipWords_nil (n : Nat) : skipWords n [] = [] := by
  cases n <;> rfl

theorem skipWords_append {n : Nat} {t : Text} (h : (afterVariable? (skipWords n t)).isSome)
    (q : Text) : skipWords n (t ++ q) = skipWords n t ++ q := by
  induction n generalizing t with
  | zero => rfl
  | succ n ih =>
    rw [skipWords] at h ⊢
    rw [skipWords]
    split at h
    · next hword =>
      -- A word was passed over, and it ended within `t`, since a variable follows it.
      have hafter : (t.dropWhile isBlank).dropWhile isModifier ≠ [] := by
        intro hnil
        rw [hnil, skipWords_nil] at h
        cases h
      have hne : t.dropWhile isBlank ≠ [] := by
        intro hnil
        exact hafter (by rw [hnil]; rfl)
      rw [dropWhile_append_of_ne_nil hne, dropWhile_append_of_ne_nil hafter, if_pos hword,
        if_pos (by simp only [List.length_append]; omega)]
      exact ih h
    · next hword =>
      obtain ⟨rest, hrest⟩ := Option.isSome_iff_exists.mp h
      obtain ⟨name, c, hname, -, -⟩ := afterVariable?_eq_some_iff.mp hrest
      have hstop : ∀ u, ('$' :: u).dropWhile isModifier = '$' :: u :=
        fun u => List.dropWhile_cons_of_neg (by decide)
      rw [if_neg hword, dropWhile_append_of_ne_nil (by simp [hname]), hname, List.cons_append,
        hstop, if_neg]
      exact fun hlt => Nat.lt_irrefl _ hlt.2

theorem skipWords_suffix (n : Nat) (t : Text) : skipWords n t <:+ t := by
  induction n generalizing t with
  | zero => exact List.suffix_refl t
  | succ n ih =>
    rw [skipWords]
    split
    · exact (ih _).trans ((List.dropWhile_suffix _).trans (List.dropWhile_suffix _))
    · exact List.suffix_refl t

theorem afterVariable?_suffix {t rest : Text} (h : afterVariable? t = some rest) : rest <:+ t := by
  obtain ⟨name, c, hname, hrest, -⟩ := afterVariable?_eq_some_iff.mp h
  have hafter : c :: rest <:+ name := hrest ▸ List.dropWhile_suffix isVariable
  have hvariable : '$' :: name <:+ t := hname ▸ List.dropWhile_suffix isBlank
  exact ((List.suffix_cons c rest).trans hafter).trans ((List.suffix_cons '$' name).trans hvariable)

/-- A line that declares a member still does with more text at its end. -/
theorem isSome_read?_append {line : Text} (h : (read? line).isSome) (q : Text) :
    (read? (line ++ q)).isSome := by
  obtain ⟨v, t, hv, ht⟩ := isSome_read?_iff.mp h
  obtain ⟨k, hk, hlower⟩ := Visibility.read?_eq_some_iff.mp hv
  have hne : line.dropWhile isBlank ≠ [] := by
    intro hnil
    rw [hnil] at hv
    cases hv
  obtain ⟨rest, hrest⟩ := Option.isSome_iff_exists.mp ht
  refine isSome_read?_iff.mpr ⟨v, t ++ q, ?_, ?_⟩
  · rw [dropWhile_append_of_ne_nil hne, hk, List.append_assoc]
    exact Visibility.read?_eq_some_iff.mpr ⟨k, rfl, hlower⟩
  · rw [skipWords_append ht, afterVariable?_append hrest]
    rfl

/-- After the keyword, a declaration line is read without regard to it. -/
theorem read?_of_keyword {v : Visibility} {margin k : Text}
    (hmargin : ∀ c ∈ margin, isBlank c = true) (hk : k.map Char.toLower = v.keyword)
    (rest : Text) :
    read? (margin ++ k ++ rest) = (afterVariable? (skipWords 2 rest)).map fun tail =>
      ⟨v, k ++ (rest.take (rest.length - tail.length) ++ dropLineEnd tail)⟩ := by
  have hv : Visibility.read? (k ++ rest) = some (v, rest) :=
    Visibility.read?_eq_some_iff.mpr ⟨k, rfl, hk⟩
  rw [read?, Visibility.dropWhile_isBlank hmargin hk]
  simp only [hv]
  cases htail : afterVariable? (skipWords 2 rest) with
  | none => rfl
  | some tail =>
    have hle : tail.length ≤ rest.length :=
      ((afterVariable?_suffix htail).trans (skipWords_suffix 2 rest)).length_le
    have htake : (k ++ rest).take ((k ++ rest).length - tail.length) =
        k ++ rest.take (rest.length - tail.length) := by
      rw [List.length_append, Nat.add_sub_assoc hle, List.take_length_add_append]
    simp only [htake, Option.map_some, List.append_assoc]

theorem dropWhile_isBlank_append_period (t : Text) :
    (t ++ ['.']).dropWhile isBlank = t.dropWhile isBlank ++ ['.'] := by
  rw [List.dropWhile_append]
  split
  · next hnil =>
    rw [List.isEmpty_iff.mp hnil]
    rfl
  · rfl

theorem isSome_afterVariable?_of_period {t : Text} (h : (afterVariable? (t ++ ['.'])).isSome) :
    (afterVariable? t).isSome := by
  obtain ⟨rest, hrest⟩ := Option.isSome_iff_exists.mp h
  obtain ⟨name, c, hname, hend, hc⟩ := afterVariable?_eq_some_iff.mp hrest
  rw [dropWhile_isBlank_append_period] at hname
  cases ht : t.dropWhile isBlank with
  | nil =>
    rw [ht] at hname
    cases hname
  | cons d u =>
    rw [ht, List.cons_append] at hname
    obtain ⟨rfl, rfl⟩ := List.cons.inj hname
    cases hu : u.dropWhile isVariable with
    | nil =>
      rw [List.dropWhile_append, hu] at hend
      cases hend
    | cons e v =>
      rw [dropWhile_append_of_ne_nil (by simp [hu]), hu] at hend
      obtain ⟨rfl, -⟩ := List.cons.inj hend
      rw [afterVariable?_eq_some_iff.mpr ⟨u, e, ht, hu, hc⟩]
      rfl

theorem isSome_skipWords_of_period {n : Nat} {t : Text}
    (h : (afterVariable? (skipWords n (t ++ ['.']))).isSome) :
    (afterVariable? (skipWords n t)).isSome := by
  induction n generalizing t with
  | zero => exact isSome_afterVariable?_of_period h
  | succ n ih =>
    rw [skipWords, dropWhile_isBlank_append_period] at h
    rw [skipWords]
    by_cases hafter : (t.dropWhile isBlank).dropWhile isModifier = []
    · -- The last word takes the period, so no variable follows it.
      have hend : (t.dropWhile isBlank ++ ['.']).dropWhile isModifier = [] := by
        rw [List.dropWhile_append, hafter]
        rfl
      rw [hend] at h
      split at h
      · rw [skipWords_nil] at h
        cases h
      · next hword =>
        simp only [List.length_append, List.length_nil] at hword
        rw [if_neg (by omega)]
        exact isSome_afterVariable?_of_period h
    · rw [dropWhile_append_of_ne_nil hafter] at h
      simp only [List.length_append, Nat.add_lt_add_iff_right] at h
      split at h
      · next hword =>
        rw [if_pos hword]
        exact ih h
      · next hword =>
        rw [if_neg hword]
        exact isSome_afterVariable?_of_period h

/-- A period at the end of a line neither makes it a declaration nor keeps it from being one. -/
theorem read?_append_period {line : Text} : read? (line ++ ['.']) = none ↔ read? line = none := by
  rw [← Option.not_isSome_iff_eq_none, ← Option.not_isSome_iff_eq_none, not_iff_not]
  constructor
  · intro h
    obtain ⟨v, t, hv, ht⟩ := isSome_read?_iff.mp h
    have hperiod : ∀ v : Visibility, '.'.toLower ∉ v.keyword := by
      intro v
      cases v <;> decide
    rw [dropWhile_isBlank_append_period, Visibility.read?_concat hperiod,
      Option.map_eq_some_iff] at hv
    obtain ⟨⟨w, u⟩, hw, heq⟩ := hv
    obtain ⟨rfl, rfl⟩ := Prod.mk.inj heq
    exact isSome_read?_iff.mpr ⟨w, u, hw, isSome_skipWords_of_period ht⟩
  · exact fun h => isSome_read?_append h ['.']

/-- The line of a text that begins, after blanks, with no letter that a visibility begins with. -/
def isPlain : Text → Bool
  | [] => true
  | c :: t => if isBlank c then isPlain t else c.toLower != 'p'

theorem read?_eq_none_of_isPlain {line : Text} (h : isPlain line = true) : read? line = none := by
  have hv : Visibility.read? (line.dropWhile isBlank) = none := by
    induction line with
    | nil => rfl
    | cons c t ih =>
      rw [isPlain] at h
      split at h
      · next hc => rw [List.dropWhile_cons_of_pos hc, ih h]
      · next hc =>
        rw [List.dropWhile_cons_of_neg hc]
        exact Visibility.read?_eq_none (by simpa using h) t
  rw [read?, hv]

theorem afterVariable?_eq_none {t t' : Text} {c : Char} (h : t.dropWhile isBlank = c :: t')
    (hc : c ≠ '$') : afterVariable? t = none := by
  rw [Option.eq_none_iff_forall_ne_some]
  intro rest hrest
  obtain ⟨name, -, hname, -, -⟩ := afterVariable?_eq_some_iff.mp hrest
  rw [h] at hname
  exact hc (List.cons.inj hname).1

theorem isBlank_eq_false {c : Char} (hc : isNameChar c = true) : isBlank c = false := by
  rw [Bool.eq_false_iff]
  intro hb
  simp only [isBlank, Bool.or_eq_true, beq_iff_eq] at hb
  rcases hb with rfl | rfl <;> cases hc

/-- What is passed over from the start of a name ends within it or at the parenthesis after it. -/
theorem exists_dropWhile_name {name : Text} (hname : IsName name) {p : Char → Bool}
    (hp : p '(' = false) (rest : Text) :
    ∃ c t, (name ++ '(' :: rest).dropWhile p = c :: t ∧ isBlank c = false ∧ c ≠ '$' := by
  induction name with
  | nil => exact ⟨'(', rest, List.dropWhile_cons_of_neg (by simp [hp]), by decide, by decide⟩
  | cons c name ih =>
    obtain ⟨hc, hrest⟩ := IsName.cons_iff.mp hname
    by_cases hm : p c = true
    · rw [List.cons_append, List.dropWhile_cons_of_pos hm]
      exact ih hrest
    · refine ⟨c, name ++ '(' :: rest, List.dropWhile_cons_of_neg hm, isBlank_eq_false hc, ?_⟩
      rintro rfl
      cases hc

theorem afterVariable?_skipWords_function {name : Text} (hname : IsName name) (rest : Text) :
    afterVariable? (skipWords 2 (" function ".toList ++ (name ++ '(' :: rest))) = none := by
  obtain ⟨c, t, ht, hc, hc'⟩ := exists_dropWhile_name hname (p := fun _ => false) rfl rest
  obtain ⟨d, u, hu, hd, hd'⟩ := exists_dropWhile_name hname (p := isModifier) rfl rest
  have hself : ∀ l : Text, l.dropWhile (fun _ => false) = l := by
    intro l
    cases l <;> rfl
  rw [hself] at ht
  have hword : (' ' :: (name ++ '(' :: rest)).dropWhile isBlank = name ++ '(' :: rest := by
    rw [List.dropWhile_cons_of_pos rfl, ht, List.dropWhile_cons_of_neg (by simp [hc])]
  have hfirst : skipWords 2 (" function ".toList ++ (name ++ '(' :: rest)) =
      skipWords 1 (' ' :: (name ++ '(' :: rest)) := by
    have hkeyword : (" function ".toList ++ (name ++ '(' :: rest)).dropWhile isBlank =
        "function ".toList ++ (name ++ '(' :: rest) := rfl
    have hafter : ("function ".toList ++ (name ++ '(' :: rest)).dropWhile isModifier =
        ' ' :: (name ++ '(' :: rest) := rfl
    rw [skipWords, hkeyword, hafter, if_pos (by simp)]
  rw [hfirst, skipWords, hword, hu]
  split
  · exact afterVariable?_eq_none (List.dropWhile_cons_of_neg (by simp [hd])) hd'
  · exact afterVariable?_eq_none (hword.trans ht) hc'

/-- The signature of a method declares no member. -/
theorem read?_signature {margin name : Text} (hmargin : ∀ c ∈ margin, isBlank c = true)
    (v : Visibility) (hname : IsName name) (rest : Text) :
    read? (margin ++ v.keyword ++ " function ".toList ++ name ++ '(' :: rest) = none := by
  have htext : (margin ++ v.keyword ++ " function ".toList ++ name ++ '(' :: rest).dropWhile
      isBlank = v.keyword ++ (" function ".toList ++ name ++ '(' :: rest) := by
    simp only [List.append_assoc]
    rw [List.dropWhile_append_of_pos hmargin]
    cases v <;> rfl
  have hv : Visibility.read? (v.keyword ++ (" function ".toList ++ name ++ '(' :: rest)) =
      some (v, " function ".toList ++ name ++ '(' :: rest) := by
    refine Visibility.read?_eq_some_iff.mpr ⟨v.keyword, rfl, ?_⟩
    cases v <;> rfl
  rw [read?, htext, hv]
  simp only [List.append_assoc, afterVariable?_skipWords_function hname]

end DeclarationLine

end Accessors

import Accessors.Proofs.TextLaws
import Accessors.Toml.Quoted

/-!
# Quoted texts are read back

Each of the four quoted forms is undone by its reader. A character is shown as it is or by an
escape, and the escape reads back to it. On several lines the text may hold quotes itself; the
reader looks three quotes ahead, so the induction carries along the quotes that were passed and
not yet read.
-/

namespace Accessors

open Text

namespace Toml

theorem toNat_lt_of_not_isTextual {c : Char} (h : isTextual c = false) : c.toNat < 0x80 := by
  simp only [isTextual, Bool.or_eq_false_iff, Bool.and_eq_false_iff, decide_eq_false_iff_not,
    bne_eq_false_iff_eq] at h
  omega

theorem codePoint?_append {c : Char} (h : isTextual c = false) (t : Text) :
    codePoint? 4 ((hexDigits 4 c.toNat).map Char.toUpper ++ t) = some (c, t) := by
  have hall : ∀ n < 0x80, ((hexDigits 4 n).map Char.toUpper).length = 4 ∧
      hexValue? ((hexDigits 4 n).map Char.toUpper) = some n ∧ n.isValidChar := by decide
  obtain ⟨hlength, hvalue, hvalid⟩ := hall c.toNat (toNat_lt_of_not_isTextual h)
  have hscalar : scalar? c.toNat = some c := by
    rw [scalar?, if_pos hvalid, Char.ofNat_toNat]
  rw [codePoint?, if_neg (by rw [List.length_append]; omega), List.take_left' hlength,
    List.drop_left' hlength, hvalue, Option.bind_some, hscalar]
  rfl

/-- A character is shown as it is, or by an escape that is not taken for the end of a line. -/
theorem escaped_cases (c : Char) :
    (escaped c = [c] ∧ isTextual c = true ∧ c ≠ '"' ∧ c ≠ '\\') ∨
      ∃ e ds, escaped c = '\\' :: e :: ds ∧ isBlank e = false ∧ e ≠ '\n' ∧ e ≠ '\r' ∧
        ∀ t, escape? (e :: ds ++ t) = some (c, t) := by
  unfold escaped
  split
  case h_8 =>
    split
    · next hquote hslash htextual => exact .inl ⟨rfl, htextual, hquote, hslash⟩
    · next htextual =>
      refine .inr ⟨'u', (hexDigits 4 c.toNat).map Char.toUpper, rfl, by decide, by decide,
        by decide, fun t => ?_⟩
      exact codePoint?_append (by simpa using htextual) t
  all_goals exact .inr ⟨_, [], rfl, by decide, by decide, by decide, fun t => rfl⟩

theorem basic?_escape {t rest : Text} {c : Char} (h : escape? t = some (c, rest)) :
    basic? ('\\' :: t) = (basic? rest).map fun (a, r) => (c :: a, r) := by
  rw [basic?]
  split
  · next hsome =>
    obtain ⟨rfl, rfl⟩ := Prod.mk.inj (Option.some.inj (hsome.symm.trans h))
    rfl
  · next hnone =>
    rw [hnone] at h
    cases h

theorem basic?_escaped (c : Char) (t : Text) :
    basic? (escaped c ++ t) = (basic? t).map fun (a, r) => (c :: a, r) := by
  rcases escaped_cases c with ⟨hc, htextual, hquote, hslash⟩ | ⟨e, ds, hc, -, -, -, hescape⟩
  · rw [hc, List.singleton_append, basic?, if_pos htextual]
    · exact hquote
    · exact hslash
  · rw [hc, List.cons_append, basic?_escape (hescape t)]

theorem basic?_flatMap_escaped (t rest : Text) :
    basic? (t.flatMap escaped ++ '"' :: rest) = some (t, rest) := by
  induction t with
  | nil => rw [List.flatMap_nil, List.nil_append, basic?]
  | cons c t ih =>
    rw [List.flatMap_cons, List.append_assoc, basic?_escaped, ih]
    rfl

theorem literal?_append {t : Text} (htextual : ∀ c ∈ t, isTextual c = true) (hquote : '\'' ∉ t)
    (rest : Text) : literal? (t ++ '\'' :: rest) = some (t, rest) := by
  induction t with
  | nil => rfl
  | cons c t ih =>
    obtain ⟨hc, ht⟩ := List.forall_mem_cons.mp htextual
    obtain ⟨hne, hmem⟩ := List.ne_and_not_mem_of_not_mem_cons hquote
    rw [List.cons_append, literal?, if_pos hc, ih ht hmem]
    · rfl
    · exact Ne.symm hne

/-- Up to two quotes before the closing ones belong to the text. -/
theorem closing_replicate {quote : Char} {n : Nat} (hn : n ≤ 2) {rest : Text}
    (hrest : rest.head? ≠ some quote) :
    closing quote (List.replicate n quote ++ rest) = (List.replicate n quote, rest) := by
  match n, rest with
  | 0, [] => rfl
  | 0, [a] =>
    have ha : a ≠ quote := by simpa using hrest
    simp [closing, ha]
  | 0, a :: b :: t =>
    have ha : a ≠ quote := by simpa using hrest
    simp [closing, ha]
  | 1, [] => simp [closing, List.replicate]
  | 1, b :: t =>
    have hb : b ≠ quote := by simpa using hrest
    simp [closing, List.replicate, hb]
  | 2, t => simp [closing, List.replicate]

theorem basicLines?_plain {c : Char} {t : Text} (hquotes : ∀ t', c = '"' → t ≠ '"' :: '"' :: t')
    (hslash : c ≠ '\\') (hreturn : c ≠ '\r') (hc : (isTextual c || c == '\n') = true) :
    basicLines? (c :: t) = (basicLines? t).map fun (a, r) => (c :: a, r) := by
  rw [basicLines?, if_pos hc]
  · exact hquotes
  · exact hslash
  · exact fun _ h _ => hreturn h

/-- Fewer than three quotes do not end the text. -/
theorem basicLines?_quotes {n : Nat} (hn : n ≤ 2) {t : Text} (ht : t.head? ≠ some '"') :
    basicLines? (List.replicate n '"' ++ t) =
      (basicLines? t).map fun (a, r) => (List.replicate n '"' ++ a, r) := by
  have hquote : ∀ u : Text, (∀ u', u ≠ '"' :: '"' :: u') →
      basicLines? ('"' :: u) = (basicLines? u).map fun (a, r) => ('"' :: a, r) :=
    fun u hu => basicLines?_plain (fun u' _ => hu u') (by decide) (by decide) (by decide)
  have hone := hquote t (by rintro u rfl; exact ht rfl)
  have htwo := hquote ('"' :: t) (by rintro u hu; exact ht (by rw [(List.cons.inj hu).2]; rfl))
  match n with
  | 0 => simp
  | 1 => exact hone
  | 2 =>
    change basicLines? ('"' :: '"' :: t) = _
    rw [htwo, hone, Option.map_map]
    rfl

theorem basicLines?_escape {t rest : Text} {c : Char} (hcontinued : continued? t = none)
    (h : escape? t = some (c, rest)) :
    basicLines? ('\\' :: t) = (basicLines? rest).map fun (a, r) => (c :: a, r) := by
  rw [basicLines?]
  split
  · next hsome =>
    rw [hcontinued] at hsome
    cases hsome
  · split
    · next hsome =>
      obtain ⟨rfl, rfl⟩ := Prod.mk.inj (Option.some.inj (hsome.symm.trans h))
      rfl
    · next hnone =>
      rw [hnone] at h
      cases h

theorem newline?_eq_none {c : Char} (hnewline : c ≠ '\n') (hreturn : c ≠ '\r') (t : Text) :
    newline? (c :: t) = none := by
  rw [newline?]
  · exact fun _ h => hnewline (List.cons.inj h).1
  · exact fun _ h => hreturn (List.cons.inj h).1

theorem continued?_eq_none {e : Char} (hblank : isBlank e = false) (hnewline : e ≠ '\n')
    (hreturn : e ≠ '\r') (t : Text) : continued? (e :: t) = none := by
  rw [continued?, List.dropWhile_cons_of_neg (by simp [hblank]), Option.map_eq_none_iff]
  exact newline?_eq_none hnewline hreturn t

theorem basicLines?_escaped (c : Char) (t : Text) :
    basicLines? (escaped c ++ t) = (basicLines? t).map fun (a, r) => (c :: a, r) := by
  rcases escaped_cases c with
    ⟨hc, htextual, hquote, hslash⟩ | ⟨e, ds, hc, hblank, hnewline, hreturn, hescape⟩
  · rw [hc, List.singleton_append]
    refine basicLines?_plain (fun _ h => absurd h hquote) hslash ?_ (by simp [htextual])
    rintro rfl
    cases htextual
  · rw [hc, List.cons_append]
    exact basicLines?_escape (continued?_eq_none hblank hnewline hreturn _) (hescape t)

theorem head?_escaped_append_ne (c : Char) (t : Text) : (escaped c ++ t).head? ≠ some '"' := by
  rcases escaped_cases c with ⟨hc, -, hquote, -⟩ | ⟨e, ds, hc, -⟩
  · simpa [hc] using hquote
  · simp [hc]

/-- The quotes passed before `t` belong to the text, though the reader has not taken them yet. -/
theorem basicLines?_escapedLines {n : Nat} (hn : n ≤ 2) (t : Text) {rest : Text}
    (hrest : rest.head? ≠ some '"') :
    basicLines? (List.replicate n '"' ++ (escapedLines n t ++ '"' :: '"' :: '"' :: rest)) =
      some (List.replicate n '"' ++ t, rest) := by
  induction t generalizing n with
  | nil =>
    have hquotes : List.replicate n '"' ++ '"' :: '"' :: '"' :: rest =
        '"' :: '"' :: '"' :: (List.replicate n '"' ++ rest) := by
      match n with
      | 0 => rfl
      | 1 => rfl
      | 2 => rfl
    rw [escapedLines, List.nil_append, hquotes, basicLines?, closing_replicate hn hrest,
      List.append_nil]
  | cons c t ih =>
    have hstart := @ih 0 (by omega)
    simp only [List.replicate_zero, List.nil_append] at hstart
    by_cases hnewline : c = '\n'
    · subst hnewline
      rw [escapedLines, List.cons_append, basicLines?_quotes hn (by simp),
        basicLines?_plain (fun _ h => absurd h (by decide)) (by decide) (by decide) (by decide),
        hstart]
      rfl
    by_cases hquote : c = '"'
    · subst hquote
      rw [escapedLines]
      split
      · next htwo =>
        -- The third quote is escaped, and the count starts anew.
        rw [List.cons_append, List.cons_append, basicLines?_quotes hn (by simp),
          basicLines?_escape (c := '"') (continued?_eq_none (by decide) (by decide) (by decide) _)
            rfl, hstart]
        rfl
      · next htwo =>
        have hmore := @ih (n + 1) (by omega)
        simpa [List.replicate_succ'] using hmore
    · rw [escapedLines, List.append_assoc, basicLines?_quotes hn (head?_escaped_append_ne c _),
        basicLines?_escaped, hstart]
      · rfl
      · exact hnewline
      · exact hquote

theorem literalLines?_plain {c : Char} {t : Text}
    (hquotes : ∀ t', c = '\'' → t ≠ '\'' :: '\'' :: t') (hreturn : c ≠ '\r')
    (hc : (isTextual c || c == '\n') = true) :
    literalLines? (c :: t) = (literalLines? t).map fun (a, r) => (c :: a, r) := by
  rw [literalLines?, if_pos hc]
  · exact hquotes
  · exact fun _ h _ => hreturn h

theorem literalLines?_quotes {n : Nat} (hn : n ≤ 2) {t : Text} (ht : t.head? ≠ some '\'') :
    literalLines? (List.replicate n '\'' ++ t) =
      (literalLines? t).map fun (a, r) => (List.replicate n '\'' ++ a, r) := by
  have hquote : ∀ u : Text, (∀ u', u ≠ '\'' :: '\'' :: u') →
      literalLines? ('\'' :: u) = (literalLines? u).map fun (a, r) => ('\'' :: a, r) :=
    fun u hu => literalLines?_plain (fun u' _ => hu u') (by decide) (by decide)
  have hone := hquote t (by rintro u rfl; exact ht rfl)
  have htwo := hquote ('\'' :: t) (by rintro u hu; exact ht (by rw [(List.cons.inj hu).2]; rfl))
  match n with
  | 0 => simp
  | 1 => exact hone
  | 2 =>
    change literalLines? ('\'' :: '\'' :: t) = _
    rw [htwo, hone, Option.map_map]
    rfl

theorem hasTriple_of_append {quote : Char} {u t : Text} (h : hasTriple quote (u ++ t) = false) :
    hasTriple quote t = false := by
  induction u with
  | nil => exact h
  | cons c u ih =>
    rw [List.cons_append, hasTriple, occursIn, Bool.or_eq_false_iff] at h
    exact ih h.2

/-- The quotes passed before `t` are counted with it: no three quotes follow each other. -/
theorem literalLines?_append {n : Nat} (hn : n ≤ 2) {t rest : Text}
    (hc : ∀ c ∈ t, (isTextual c || c == '\n') = true)
    (htriple : hasTriple '\'' (List.replicate n '\'' ++ t) = false)
    (hrest : rest.head? ≠ some '\'') :
    literalLines? (List.replicate n '\'' ++ (t ++ '\'' :: '\'' :: '\'' :: rest)) =
      some (List.replicate n '\'' ++ t, rest) := by
  induction t generalizing n with
  | nil =>
    have hquotes : List.replicate n '\'' ++ '\'' :: '\'' :: '\'' :: rest =
        '\'' :: '\'' :: '\'' :: (List.replicate n '\'' ++ rest) := by
      match n with
      | 0 => rfl
      | 1 => rfl
      | 2 => rfl
    rw [List.nil_append, hquotes, literalLines?, closing_replicate hn hrest, List.append_nil]
  | cons c t ih =>
    obtain ⟨hchar, ht⟩ := List.forall_mem_cons.mp hc
    by_cases hquote : c = '\''
    · subst hquote
      have htwo : n ≠ 2 := by
        rintro rfl
        simp [hasTriple, occursIn, List.replicate] at htriple
      have hnext := @ih (n + 1) (by omega) ht (by simpa [List.replicate_succ'] using htriple)
      simpa [List.replicate_succ'] using hnext
    · have hreturn : c ≠ '\r' := by
        rintro rfl
        cases hchar
      rw [List.append_cons] at htriple
      have hnext := @ih 0 (by omega) ht (hasTriple_of_append htriple)
      rw [List.cons_append, literalLines?_quotes hn (by simpa using hquote),
        literalLines?_plain (fun _ h => absurd h hquote) hreturn hchar]
      simp only [List.replicate_zero, List.nil_append] at hnext
      rw [hnext]
      rfl

theorem ne_return_of_shown {c : Char} (h : (isTextual c || c == '\n') = true) : c ≠ '\r' := by
  rintro rfl
  cases h

/-- The line end after the opening quotes is dropped, and where none was written there is none to
drop. -/
theorem dropNewline_leadingNewline {t u : Text}
    (h : '\n' ∉ t → ∃ c u', u = c :: u' ∧ c ≠ '\n' ∧ c ≠ '\r') :
    dropNewline (leadingNewline t ++ u) = u := by
  rw [leadingNewline]
  split
  · rfl
  · next hn =>
    obtain ⟨c, u', rfl, hnewline, hreturn⟩ := h (by simpa using hn)
    rw [List.nil_append, dropNewline, newline?_eq_none hnewline hreturn]
    rfl

theorem exists_escapedLines_eq_cons {t : Text} (h : '\n' ∉ t) (u : Text) :
    ∃ c u', escapedLines 0 t ++ '"' :: u = c :: u' ∧ c ≠ '\n' ∧ c ≠ '\r' := by
  cases t with
  | nil => exact ⟨'"', u, rfl, by decide, by decide⟩
  | cons d t =>
    obtain ⟨hd, -⟩ := List.ne_and_not_mem_of_not_mem_cons h
    by_cases hquote : d = '"'
    · subst hquote
      exact ⟨'"', _, rfl, by decide, by decide⟩
    · rw [escapedLines, List.append_assoc]
      · rcases escaped_cases d with ⟨hc, htextual, -, -⟩ | ⟨e, ds, hc, -⟩
        · rw [hc]
          exact ⟨d, _, rfl, Ne.symm hd, ne_return_of_shown (by simp [htextual])⟩
        · rw [hc]
          exact ⟨'\\', _, rfl, by decide, by decide⟩
      · exact Ne.symm hd
      · exact hquote

section Forms

variable {t rest : Text}

theorem writeBasic_append (t rest : Text) :
    writeBasic t ++ rest = '"' :: (t.flatMap escaped ++ '"' :: rest) := by
  simp [writeBasic]

theorem writeLiteral_append (t rest : Text) :
    writeLiteral t ++ rest = '\'' :: (t ++ '\'' :: rest) := by
  simp [writeLiteral]

theorem quoted?_writeBasic (t : Text) (hrest : rest.head? ≠ some '"') :
    quoted? (writeBasic t ++ rest) = some (t, rest) := by
  rw [writeBasic_append, quoted?]
  · exact basic?_flatMap_escaped t rest
  · intro u hu
    cases t with
    | nil =>
      obtain rfl := (List.cons.inj hu).2
      exact hrest rfl
    | cons c t =>
      rw [List.flatMap_cons, List.append_assoc] at hu
      exact head?_escaped_append_ne c _ (by rw [hu]; rfl)

theorem quoted?_writeLiteral (htextual : ∀ c ∈ t, isTextual c = true) (hquote : '\'' ∉ t)
    (hrest : rest.head? ≠ some '\'') : quoted? (writeLiteral t ++ rest) = some (t, rest) := by
  rw [writeLiteral_append, quoted?]
  · exact literal?_append htextual hquote rest
  · intro u hu
    cases t with
    | nil =>
      obtain rfl := (List.cons.inj hu).2
      exact hrest rfl
    | cons c t =>
      obtain ⟨rfl, -⟩ := List.cons.inj hu
      exact hquote List.mem_cons_self

theorem quoted?_writeBasicLines (t : Text) (hrest : rest.head? ≠ some '"') :
    quoted? (writeBasicLines t ++ rest) = some (t, rest) := by
  have htext : writeBasicLines t ++ rest =
      '"' :: '"' :: '"' ::
        (leadingNewline t ++ (escapedLines 0 t ++ '"' :: '"' :: '"' :: rest)) := by
    simp [writeBasicLines]
  rw [htext, quoted?, dropNewline_leadingNewline fun h => exists_escapedLines_eq_cons h _]
  exact @basicLines?_escapedLines 0 (by omega) t rest hrest

theorem quoted?_writeLiteralLines (hc : ∀ c ∈ t, (isTextual c || c == '\n') = true)
    (htriple : hasTriple '\'' t = false) (hrest : rest.head? ≠ some '\'') :
    quoted? (writeLiteralLines t ++ rest) = some (t, rest) := by
  have htext : writeLiteralLines t ++ rest =
      '\'' :: '\'' :: '\'' :: (leadingNewline t ++ (t ++ '\'' :: '\'' :: '\'' :: rest)) := by
    simp [writeLiteralLines]
  rw [htext, quoted?, dropNewline_leadingNewline]
  · exact @literalLines?_append 0 (by omega) t rest hc htriple hrest
  · intro hnewline
    cases t with
    | nil => exact ⟨'\'', _, rfl, by decide, by decide⟩
    | cons c t =>
      obtain ⟨hne, -⟩ := List.ne_and_not_mem_of_not_mem_cons hnewline
      exact ⟨c, _, rfl, Ne.symm hne, ne_return_of_shown (hc c List.mem_cons_self)⟩

/-- A written text is read back, whatever its form, unless a quote follows it. -/
theorem quoted?_writeText (t : Text) (hrest : rest.head? ≠ some '"')
    (hrest' : rest.head? ≠ some '\'') : quoted? (writeText t ++ rest) = some (t, rest) := by
  have hshown : (!t.any isControl) = true → ∀ c ∈ t, (isTextual c || c == '\n') = true := by
    intro h c hc
    have hcontrol : isControl c = false := by
      simp only [Bool.not_eq_true', List.any_eq_false] at h
      simpa using h c hc
    cases htextual : isTextual c with
    | true => rfl
    | false => simpa [isControl, htextual] using hcontrol
  rw [writeText]
  simp only [Bool.and_eq_true]
  split
  · exact quoted?_writeBasic t hrest
  split
  · next h =>
    obtain ⟨⟨hcontrol, hquote⟩, hnewline⟩ := h
    refine quoted?_writeLiteral ?_ (by simpa using hquote) hrest'
    intro c hc
    rcases Bool.or_eq_true_iff.mp (hshown hcontrol c hc) with htextual | heq
    · exact htextual
    · rw [beq_iff_eq.mp heq] at hc
      simp [hc] at hnewline
  split
  · exact quoted?_writeBasicLines t hrest
  split
  · next h => exact quoted?_writeLiteralLines (hshown h.1) (by simpa using h.2) hrest'
  split
  · exact quoted?_writeBasic t hrest
  · exact quoted?_writeBasicLines t hrest

end Forms

def isBareKey (k : Text) : Bool :=
  !k.isEmpty && k.all isBare

theorem isBareKey_iff {k : Text} : isBareKey k = true ↔ k ≠ [] ∧ ∀ c ∈ k, isBare c = true := by
  rw [isBareKey, Bool.and_eq_true, List.all_eq_true]
  simp

theorem keyPart?_bare {t rest : Text} (h : isBareKey t = true)
    (hrest : ∀ c ∈ rest.head?, isBare c = false) : keyPart? (t ++ rest) = some (t, rest) := by
  obtain ⟨hne, hbare⟩ := isBareKey_iff.mp h
  have hstop : rest.takeWhile isBare = [] ∧ rest.dropWhile isBare = rest := by
    cases rest with
    | nil => exact ⟨rfl, rfl⟩
    | cons c rest => simp [hrest c rfl]
  have htake : (t ++ rest).takeWhile isBare = t := by
    rw [List.takeWhile_append_of_pos hbare, hstop.1, List.append_nil]
  have hdrop : (t ++ rest).dropWhile isBare = rest := by
    rw [List.dropWhile_append_of_pos hbare, hstop.2]
  obtain ⟨c, t, rfl⟩ := List.exists_cons_of_ne_nil hne
  have hc := hbare c List.mem_cons_self
  rw [keyPart?, htake, hdrop]
  · rintro u hu
    obtain ⟨rfl, -⟩ := List.cons.inj hu
    cases hc
  · rintro u hu
    obtain ⟨rfl, -⟩ := List.cons.inj hu
    cases hc

/-- A written key is read back, unless a character follows that may stand in a bare key. -/
theorem keyPart?_writeKey (t : Text) {rest : Text} (hrest : ∀ c ∈ rest.head?, isBare c = false) :
    keyPart? (writeKey t ++ rest) = some (t, rest) := by
  have hbasic : keyPart? (writeBasic t ++ rest) = some (t, rest) := by
    rw [writeBasic_append, keyPart?]
    exact basic?_flatMap_escaped t rest
  rw [writeKey]
  simp only [Bool.and_eq_true]
  split
  · next h => exact keyPart?_bare (Bool.and_eq_true_iff.mpr h) hrest
  split
  · exact hbasic
  split
  · next h =>
    rw [writeLiteral_append, keyPart?]
    exact literal?_append (List.all_eq_true.mp h.1) (by simpa using h.2) rest
  · exact hbasic

end Toml

end Accessors

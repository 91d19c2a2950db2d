import Accessors.Proofs.NameCharacters

/-!
# Camel case by words

A name in camel case is made in three passes: marked letters are raised, then the first character,
then underscores go. The outcome is that of one pass over the words between the underscores: the
first word begins with its full capital, every other word with an ASCII capital if it began with a
small ASCII letter. In ASCII both rules say the same, so that a name in camel case stays as it is.
-/

namespace Accessors

open Text

namespace Naming

/-- The capital of a small ASCII letter, and any other character as it is. -/
def raised (c : Char) : Char :=
  if isSmallAscii c then c.toUpper else c

def raiseSmall : Text → Text
  | c :: rest => raised c :: rest
  | [] => []

/-- The words of a name put together in camel case: the first begins with its full upper case, any
other with an ASCII capital if it began with a small ASCII letter. -/
def capitalized : List Text → Text
  | w :: ws => raiseFirst w ++ ws.flatMap raiseSmall
  | [] => []

/-- Words put together where only those after the first are raised. -/
def raisedAfterFirst : List Text → Text
  | w :: ws => w ++ ws.flatMap raiseSmall
  | [] => []

variable {c : Char} {t : Text}

theorem toUpper_ne_underscore (h : isSmallAscii c = true) : c.toUpper ≠ '_' :=
  forall_isSmallAscii h (by decide)

theorem isSmallAscii_iff : isSmallAscii c = true ↔ 0x61 ≤ c.toNat ∧ c.toNat ≤ 0x7a := by
  rw [isSmallAscii, Bool.and_eq_true, decide_eq_true_eq, decide_eq_true_eq]
  rfl

theorem isSmallAscii_raised (c : Char) : isSmallAscii (raised c) = false := by
  rw [raised]
  split
  · next h => exact forall_isSmallAscii h (by decide)
  · next h => exact Bool.eq_false_iff.mpr h

theorem toNat_raised_lt (hc : c.toNat < 128) : (raised c).toNat < 128 := by
  rw [raised]
  split
  · next h => exact forall_isSmallAscii h (by decide)
  · exact hc

theorem raised_raised (c : Char) : raised (raised c) = raised c := by
  rw [raised, isSmallAscii_raised]
  rfl

/-- The small letters of ASCII are the lowest run of the table of small letters. -/
theorem isLower_eq_false_of_ascii (hc : c.toNat < 128) (hsmall : isSmallAscii c = false) :
    isLower c = false := by
  have htable : lowerRuns = ⟨0x61, 0x7a, 1⟩ :: ⟨0xaa, 0xaa, 1⟩ :: lowerRuns.drop 2 := rfl
  rw [Bool.eq_false_iff, Ne, isSmallAscii_iff] at hsmall
  rw [isLower, htable, Run.search, Run.search, Run.holds, Bool.eq_false_iff]
  simp only [Ne, Bool.and_eq_true, Bool.or_eq_true, Nat.ble_eq]
  omega

/-- The small letters of ASCII are the lowest run that the upper case moves. -/
theorem shift_of_ascii (hc : c.toNat < 128) :
    Char.ofNat (Shift.apply upperShifts c.toNat) = raised c := by
  have htable : upperShifts =
      ⟨⟨0x61, 0x7a, 1⟩, 0x41⟩ :: ⟨⟨0xb5, 0xb5, 1⟩, 0x39c⟩ :: upperShifts.drop 2 := rfl
  by_cases hsmall : isSmallAscii c = true
  · exact forall_isSmallAscii hsmall (by decide)
  · rw [raised, if_neg hsmall]
    rw [isSmallAscii_iff] at hsmall
    have hself : Shift.apply upperShifts c.toNat = c.toNat := by
      rw [htable, Shift.apply]
      split
      · rfl
      · next hfirst =>
        have hheld : Run.holds ⟨0x61, 0x7a, 1⟩ c.toNat = false := by
          rw [Bool.eq_false_iff]
          exact fun hheld => hsmall (Run.bounds_of_holds hheld)
        have hbelow : Nat.ble 0xb5 c.toNat = false := by
          rw [Bool.eq_false_iff, Ne, Nat.ble_eq]
          omega
        rw [hheld, if_neg Bool.false_ne_true, Shift.apply, hbelow]
        rfl
    rw [hself, Char.ofNat_toNat]

/-- The upper case of no ASCII character is an expansion, and no expansion holds an underscore. -/
theorem expansions_beside : ∀ e ∈ upperExpansions, 128 ≤ e.1 ∧ '_' ∉ e.2.map Char.ofNat := by
  decide

theorem upper_of_ascii (hc : c.toNat < 128) : upper c = [raised c] := by
  have hplain : upperExpansions.lookup c.toNat = none := by
    rw [List.lookup_eq_none_iff]
    intro e he
    have hkey := (expansions_beside e he).1
    rw [bne_iff_ne]
    omega
  rw [upper, hplain, shift_of_ascii hc]

/-- What is raised is its own upper case. -/
theorem upper_raised (hc : c.toNat < 128) : upper (raised c) = [raised c] := by
  rw [upper_of_ascii (toNat_raised_lt hc), raised_raised]

theorem upper_toUpper (h : isSmallAscii c = true) : upper c.toUpper = [c.toUpper] := by
  have hascii : c.toNat < 128 := forall_isSmallAscii h (by decide)
  have hraised := upper_raised hascii
  rwa [raised, if_pos h] at hraised

theorem pieces_underscore (t : Text) : pieces '_' ('_' :: t) = [] :: pieces '_' t := rfl

theorem exists_pieces_cons (hc : c ≠ '_') (t : Text) :
    ∃ w ws, pieces '_' t = w :: ws ∧ pieces '_' (c :: t) = (c :: w) :: ws := by
  obtain ⟨w, ws, hw⟩ := List.exists_cons_of_ne_nil (pieces_ne_nil '_' t)
  refine ⟨w, ws, hw, ?_⟩
  rw [pieces, if_neg hc, hw]

/-- Raising marked letters and dropping the underscores raises every word but the first. -/
theorem filter_raiseMarked (t : Text) :
    (raiseMarked t).filter (· != '_') = raisedAfterFirst (pieces '_' t) := by
  induction t using raiseMarked.induct with
  | case1 c rest hc ih =>
    obtain ⟨w, ws, hw, hcons⟩ := exists_pieces_cons (c := c) (by rintro rfl; cases hc) rest
    rw [hw] at ih
    rw [raiseMarked, if_pos hc, List.filter_cons_of_pos (by simpa using toUpper_ne_underscore hc),
      ih, pieces_underscore, hcons]
    simp [raisedAfterFirst, raiseSmall, raised, hc]
  | case2 c rest hc ih =>
    -- The word behind the underscore is raised too, which changes nothing.
    have hfirst : raisedAfterFirst (pieces '_' (c :: rest)) =
        (pieces '_' (c :: rest)).flatMap raiseSmall := by
      by_cases hunderscore : c = '_'
      · rw [hunderscore]
        rfl
      · obtain ⟨w, ws, -, hcons⟩ := exists_pieces_cons hunderscore rest
        rw [hcons]
        simp [raisedAfterFirst, raiseSmall, raised, hc]
    rw [raiseMarked, if_neg hc, List.filter_cons_of_neg (by simp), ih, hfirst]
    rfl
  | case3 c rest hne ih =>
    rw [raiseMarked.eq_2 _ _ hne]
    by_cases hc : c = '_'
    · -- An underscore at the end has no letter to mark.
      subst hc
      cases rest with
      | nil => rfl
      | cons d rest => exact absurd rfl (hne d rest rfl)
    · obtain ⟨w, ws, hw, hcons⟩ := exists_pieces_cons hc rest
      rw [hw] at ih
      rw [List.filter_cons_of_pos (by simpa using hc), ih, hcons]
      rfl
  | case4 => rfl

/-- No capital but that of the underscore holds an underscore. -/
theorem underscore_notMem_upper (hc : c ≠ '_') : '_' ∉ upper c := by
  rw [upper]
  split
  · next ns hns =>
    obtain ⟨l, r, hsplit, -⟩ := List.lookup_eq_some_iff.mp hns
    exact (expansions_beside (c.toNat, ns) (by simp [hsplit])).2
  · rw [List.mem_singleton]
    intro hshift
    rcases Shift.apply_eq_self_or upperShifts c.toNat with hself | ⟨s, hs, hfirst, hlast⟩
    · rw [hself, Char.ofNat_toNat] at hshift
      exact hc hshift.symm
    · obtain ⟨hnames, hbeside⟩ := codesNames_of_mem_shifts s (by simp [hs])
      have hcode := congrArg Char.toNat hshift
      rw [toNat_ofNat_of_codesNames hnames hfirst hlast] at hcode
      have hunderscore : Char.toNat '_' = 0x5f := rfl
      omega

theorem filter_upper (hc : c ≠ '_') : (upper c).filter (· != '_') = upper c := by
  rw [List.filter_eq_self]
  intro d hd
  rw [bne_iff_ne]
  rintro rfl
  exact underscore_notMem_upper hc hd

/-- A capital and the underscore are their own upper case. -/
theorem raiseFirst_raiseMarked_underscore (t : Text) :
    raiseFirst (raiseMarked ('_' :: t)) = raiseMarked ('_' :: t) := by
  have hunderscore : upper '_' = ['_'] := upper_of_ascii (by decide)
  cases t with
  | nil => simp [raiseMarked, raiseFirst, hunderscore]
  | cons c t =>
    rw [raiseMarked]
    split
    · next hc =>
      rw [raiseFirst, upper_toUpper hc]
      rfl
    · rw [raiseFirst, hunderscore]
      rfl

/-- The three passes put the words together in camel case. -/
theorem camel_eq_capitalized (name : Text) :
    camel name = capitalized (pieces '_' (bare name)) := by
  rw [camel]
  generalize bare name = t
  cases t with
  | nil => rfl
  | cons c t =>
    by_cases hc : c = '_'
    · rw [hc, raiseFirst_raiseMarked_underscore, filter_raiseMarked]
      rfl
    · obtain ⟨w, ws, hw, hcons⟩ := exists_pieces_cons hc t
      have hrest := filter_raiseMarked t
      rw [hw] at hrest
      rw [raiseMarked_cons hc, raiseFirst, List.filter_append, filter_upper hc, hrest, hcons,
        capitalized, raiseFirst, List.append_assoc]
      rfl

theorem underscore_notMem_camel (name : Text) : '_' ∉ camel name := by
  intro h
  simpa using (List.mem_filter.mp h).2

theorem raiseFirst_eq_raiseSmall (h : ∀ c ∈ t, c.toNat < 128) : raiseFirst t = raiseSmall t := by
  cases t with
  | nil => rfl
  | cons c t =>
    rw [raiseFirst, raiseSmall, upper_of_ascii (h c List.mem_cons_self)]
    rfl

theorem capitalized_eq_flatMap {ws : List Text} (h : ∀ w ∈ ws, ∀ c ∈ w, c.toNat < 128) :
    capitalized ws = ws.flatMap raiseSmall := by
  cases ws with
  | nil => rfl
  | cons w ws =>
    rw [capitalized, raiseFirst_eq_raiseSmall (h w List.mem_cons_self)]
    rfl

theorem head?_flatMap_raiseSmall {ws : List Text} (h : ∀ w ∈ ws, ∀ c ∈ w, c.toNat < 128) :
    ∀ c ∈ (ws.flatMap raiseSmall).head?, upper c = [c] ∧ isLower c = false := by
  induction ws with
  | nil => simp
  | cons w ws ih =>
    cases w with
    | nil => exact ih fun w hw => h w (List.mem_cons_of_mem _ hw)
    | cons c w =>
      have hc : c.toNat < 128 := h _ List.mem_cons_self c List.mem_cons_self
      rw [List.flatMap_cons, raiseSmall]
      rintro d ⟨⟩
      exact ⟨upper_raised hc,
        isLower_eq_false_of_ascii (toNat_raised_lt hc) (isSmallAscii_raised c)⟩

/-- A name of one word that begins with a capital or no letter at all is in camel case already. -/
theorem camel_eq_self (hmarks : '_' ∉ t)
    (hfirst : ∀ c ∈ t.head?, upper c = [c] ∧ isLower c = false) : camel t = t := by
  have hbare : bare t = t := by
    unfold bare
    split
    · simp at hmarks
    · simp at hmarks
    · next a b rest _ _ =>
      rw [(hfirst a rfl).2, Bool.false_and]
      rfl
    · rfl
  rw [camel_eq_capitalized, hbare, pieces_eq_splitOn, List.splitOn_eq_singleton hmarks]
  cases t with
  | nil => rfl
  | cons c t =>
    rw [capitalized, raiseFirst, (hfirst c rfl).1]
    simp

/-- In camel case a name is made of the words of its bare name, each with its capital, and no
underscore is left. The camel case of an ASCII name begins with no small letter, and taking it once
more changes nothing. -/
theorem camel_case_capitalizes_words (name : Text) :
    stem .camel name = capitalized (pieces '_' (bare name)) ∧ '_' ∉ stem .camel name ∧
      ((∀ c ∈ name, c.toNat < 128) →
        (∀ c ∈ (stem .camel name).head?, isLower c = false) ∧
          stem .camel (stem .camel name) = stem .camel name) := by
  refine ⟨camel_eq_capitalized name, underscore_notMem_camel name, fun hascii => ?_⟩
  have hwords : ∀ w ∈ pieces '_' (bare name), ∀ c ∈ w, c.toNat < 128 := by
    intro w hw c hc
    obtain ⟨a, b, hab⟩ : ∃ a b, joinWith ['_'] (pieces '_' (bare name)) = a ++ w ++ b :=
      exists_joinWith_eq_append hw
    rw [joinWith_pieces] at hab
    exact hascii c ((bare_suffix name).mem (by simp [hab, hc]))
  have hfirst : ∀ c ∈ (camel name).head?, upper c = [c] ∧ isLower c = false := by
    rw [camel_eq_capitalized, capitalized_eq_flatMap hwords]
    exact head?_flatMap_raiseSmall hwords
  exact ⟨fun c hc => (hfirst c hc).2, camel_eq_self (underscore_notMem_camel name) hfirst⟩

/-- A name with both marks, an empty word and a word that begins with a digit. -/
def markedName : Text := "_aGet__id_2nd_url"

theorem markedName_capitalizes_words :
    (∀ c ∈ markedName, c.toNat < 128) ∧ stem .camel markedName = "GetId2ndUrl" ∧
      '_' ∉ stem .camel markedName ∧ (∀ c ∈ (stem .camel markedName).head?, isLower c = false) ∧
      stem .camel (stem .camel markedName) = stem .camel markedName := by
  have hascii : ∀ c ∈ markedName, c.toNat < 128 := by
    have hall : markedName.all (fun c => c.toNat < 128) = true := by decide
    simpa using hall
  obtain ⟨hwords, hmarks, hplain⟩ := camel_case_capitalizes_words markedName
  refine ⟨hascii, ?_, hmarks, hplain hascii⟩
  rw [hwords]
  decide

end Naming

end Accessors

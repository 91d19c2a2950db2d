import Accessors.Naming.Phrase
import Accessors.Proofs.TextLaws

/-!
# The characters that a phrase keeps

The words of a phrase are found by one pass over the name that never looks back. A character before
which the pass stands begins a word, or it is passed over, and which of the two depends only on
what follows it. So the pass loses underscores and, of every run of capitals, all but the last two,
and these as well if the name or an underscore ends the run.
-/

namespace Accessors

namespace Naming

/-- A stretch of a text, from the character at `start` to before the one at `stop`. -/
structure Span where
  start : Nat
  stop : Nat

namespace Span

def Holds (s : Span) (i : Nat) : Prop :=
  s.start ≤ i ∧ i < s.stop

def cut (t : Text) (s : Span) : Text :=
  (t.take s.stop).drop s.start

end Span

/-- Where the pass finds the words of a text behind which `n` characters lie. -/
def wordSpans (n : Nat) : Text → List Span
  | [] => []
  | c :: rest =>
    match _h : word? (c :: rest) with
    | some (w, after) => ⟨n, n + w.length⟩ :: wordSpans (n + w.length) after
    | none => wordSpans (n + 1) rest
termination_by t => t.length
decreasing_by
  · exact word?_shorter _h
  · exact Nat.lt_succ_self _

def InWord (name : Text) (i : Nat) : Prop :=
  ∃ s ∈ wordSpans 0 name, s.Holds i

/-- A run of capitals with no capital right before it or right behind it. -/
structure IsCapitalRun (t : Text) (s : Span) : Prop where
  capital : ∀ i, s.Holds i → ∃ c, t[i]? = some c ∧ isCapitalAscii c = true
  before : ∀ i c, i + 1 = s.start → t[i]? = some c → isCapitalAscii c = false
  behind : ∀ c, t[s.stop]? = some c → isCapitalAscii c = false

section Word

variable {t w after lead rest : Text} {c : Char} {k : Nat}

theorem isLead_of_isCapitalAscii (h : isCapitalAscii c = true) : isLead c = true := by
  simp only [isCapitalAscii, Bool.and_eq_true, decide_eq_true_eq] at h
  have hz : c.toNat ≤ 90 := h.2
  have hunderscore : c ≠ '_' := by
    rintro rfl
    exact absurd h.2 (by decide)
  have hsmall : isSmallAscii c = false := by
    rw [isSmallAscii, Bool.and_eq_false_iff, decide_eq_false_iff_not]
    left
    intro ha
    have ha : 97 ≤ c.toNat := ha
    omega
  simp [isLead, hunderscore, hsmall]

theorem isBody_iff : isBody c = true ↔ c ≠ '_' ∧ isCapitalAscii c = false := by
  simp [isBody]

theorem ne_underscore_of_isLead (h : isLead c = true) : c ≠ '_' := by
  simp only [isLead, Bool.and_eq_true, bne_iff_ne] at h
  exact h.1

/-- A word at the start of a text: what leads it, its body, and what follows. -/
structure IsWordOf (t w after : Text) : Prop where
  split : t = w ++ after
  parts : ∃ lead body, w = lead ++ body ∧ lead.length ≤ 2 ∧ (∀ c ∈ lead, isLead c = true) ∧
    body ≠ [] ∧ ∀ c ∈ body, isBody c = true

theorem isWordOf_of_wordWithLead? (hk : k ≤ 2) (h : wordWithLead? k t = some (w, after)) :
    IsWordOf t w after := by
  simp only [wordWithLead?] at h
  split at h
  · next hparts =>
    obtain ⟨hlength, hlead, hbody⟩ := hparts
    obtain ⟨rfl, rfl⟩ := Prod.mk.inj (Option.some.inj h)
    refine ⟨?_, t.take k, (t.drop k).takeWhile isBody, rfl, by omega, ?_, hbody, ?_⟩
    · rw [List.append_assoc, List.takeWhile_append_dropWhile, List.take_append_drop]
    · exact List.all_eq_true.mp hlead
    · exact fun c hc => List.mem_takeWhile_imp hc
  · cases h

theorem isWordOf_of_word? (h : word? t = some (w, after)) : IsWordOf t w after := by
  simp only [word?, Option.or_eq_some_iff] at h
  rcases h with (h | ⟨-, h⟩) | ⟨-, h⟩
  · exact isWordOf_of_wordWithLead? (by omega) h
  · exact isWordOf_of_wordWithLead? (by omega) h
  · exact isWordOf_of_wordWithLead? (by omega) h

theorem IsWordOf.underscore_notMem (h : IsWordOf t w after) : '_' ∉ w := by
  obtain ⟨lead, body, rfl, -, hlead, -, hbody⟩ := h.parts
  intro hmem
  rcases List.mem_append.mp hmem with hmem | hmem
  · exact ne_underscore_of_isLead (hlead _ hmem) rfl
  · exact (isBody_iff.mp (hbody _ hmem)).1 rfl

theorem IsWordOf.ne_nil (h : IsWordOf t w after) : w ≠ [] := by
  obtain ⟨lead, body, rfl, -, -, hne, -⟩ := h.parts
  exact List.append_ne_nil_of_right_ne_nil lead hne

/-- A text begins with a word if up to two characters that may lead one stand before one that may be
in its body. -/
theorem isSome_word? (hlength : lead.length ≤ 2) (hlead : ∀ d ∈ lead, isLead d = true)
    (hc : isBody c = true) : (word? (lead ++ c :: rest)).isSome = true := by
  have hsome : (wordWithLead? lead.length (lead ++ c :: rest)).isSome = true := by
    simp only [wordWithLead?, List.take_left, List.drop_left]
    rw [if_pos]
    · rfl
    · exact ⟨trivial, List.all_eq_true.mpr hlead, by simp [hc]⟩
  have hcases : lead.length = 0 ∨ lead.length = 1 ∨ lead.length = 2 := by omega
  rcases hcases with hk | hk | hk
  · simp [word?, ← hk, hsome]
  · simp [word?, ← hk, hsome]
  · simp [word?, ← hk, hsome]

end Word

section Pass

variable {t w after : Text} {s : Span} {n i : Nat}

/-- At the start of every stretch the pass finds the word that the stretch holds. -/
theorem exists_of_mem_wordSpans (h : s ∈ wordSpans n t) :
    ∃ before w after, t = before ++ w ++ after ∧ IsWordOf (w ++ after) w after ∧
      s = ⟨n + before.length, n + before.length + w.length⟩ := by
  induction t using words.induct generalizing n with
  | case1 =>
    rw [wordSpans] at h
    cases h
  | case2 c rest w after hword ih =>
    have hw := isWordOf_of_word? hword
    rw [wordSpans, hword] at h
    rcases List.mem_cons.mp h with rfl | h
    · rw [hw.split]
      exact ⟨[], w, after, rfl, ⟨rfl, hw.parts⟩, rfl⟩
    · obtain ⟨before, w', after', hsplit, hw', rfl⟩ := ih h
      refine ⟨w ++ before, w', after', ?_, hw', ?_⟩
      · rw [hw.split, hsplit]
        simp
      · simp [Nat.add_assoc]
  | case3 c rest hnone ih =>
    rw [wordSpans, hnone] at h
    obtain ⟨before, w, after, hsplit, hw, rfl⟩ := ih h
    refine ⟨c :: before, w, after, ?_, hw, ?_⟩
    · rw [hsplit]
      rfl
    · simp [Nat.add_assoc, Nat.add_comm 1]

theorem pairwise_wordSpans (n : Nat) (t : Text) :
    (wordSpans n t).Pairwise fun a b => a.stop ≤ b.start := by
  induction t using words.induct generalizing n with
  | case1 =>
    rw [wordSpans]
    exact .nil
  | case2 c rest w after hword ih =>
    rw [wordSpans, hword]
    refine List.pairwise_cons.mpr ⟨fun s hs => ?_, ih (n + w.length)⟩
    obtain ⟨before, w', after', -, -, rfl⟩ := exists_of_mem_wordSpans hs
    exact Nat.le_add_right _ _
  | case3 c rest hnone ih =>
    rw [wordSpans, hnone]
    exact ih (n + 1)

theorem cut_append (before w after : Text) :
    Span.cut (before ++ w ++ after) ⟨before.length, before.length + w.length⟩ = w := by
  rw [Span.cut, ← List.length_append, List.take_left, List.drop_left]

theorem words_eq_map_cut (before t : Text) :
    words t = (wordSpans before.length t).map (Span.cut (before ++ t)) := by
  induction t using words.induct generalizing before with
  | case1 => rw [words, wordSpans, List.map_nil]
  | case2 c rest w after hword ih =>
    have hw := (isWordOf_of_word? hword).split
    have hrest := ih (before ++ w)
    rw [List.length_append, List.append_assoc, ← hw] at hrest
    rw [words, hword, wordSpans, hword, List.map_cons, ← hrest, hw, ← List.append_assoc, cut_append]
  | case3 c rest hnone ih =>
    have hrest := ih (before ++ [c])
    rw [List.length_append, List.append_assoc, List.singleton_append, List.length_singleton]
      at hrest
    rw [words, hnone, wordSpans, hnone, hrest]

/-- Where no word is found the pass stood before a character that begins none. -/
theorem word?_drop_eq_none (h : ∀ s ∈ wordSpans n t, ¬s.Holds (n + i)) :
    word? (t.drop i) = none := by
  induction t using words.induct generalizing n i with
  | case1 =>
    rw [List.drop_nil]
    rfl
  | case2 c rest w after hword ih =>
    have hw := (isWordOf_of_word? hword).split
    rw [wordSpans, hword] at h
    obtain ⟨hfirst, hrest⟩ := List.forall_mem_cons.mp h
    have hi : w.length ≤ i := by
      simp only [Span.Holds] at hfirst
      omega
    obtain ⟨j, rfl⟩ := Nat.exists_eq_add_of_le hi
    rw [hw, ← List.drop_drop, List.drop_left]
    apply ih (n := n + w.length)
    rwa [Nat.add_assoc]
  | case3 c rest hnone ih =>
    rw [wordSpans, hnone] at h
    cases i with
    | zero => exact hnone
    | succ i =>
      rw [List.drop_succ_cons]
      apply ih (n := n + 1)
      rwa [Nat.add_assoc, Nat.add_comm 1]

theorem underscore_notMem_of_mem_words (h : w ∈ words t) : '_' ∉ w := by
  rw [words_eq_map_cut [] t] at h
  obtain ⟨s, hs, rfl⟩ := List.mem_map.mp h
  obtain ⟨before, w, after, rfl, hw, rfl⟩ := exists_of_mem_wordSpans hs
  rw [List.length_nil, Nat.zero_add, List.nil_append, cut_append]
  exact hw.underscore_notMem

/-- A place at which up to two characters that may lead a word stand before one that may be in its
body belongs to a word. -/
theorem inWord_of_drop {name lead rest : Text} {c : Char} (hdrop : name.drop i = lead ++ c :: rest)
    (hlength : lead.length ≤ 2) (hlead : ∀ d ∈ lead, isLead d = true) (hc : isBody c = true) :
    InWord name i := by
  by_contra hout
  have hnone : word? (name.drop i) = none := by
    apply word?_drop_eq_none (n := 0)
    intro s hs hi
    rw [Nat.zero_add] at hi
    exact hout ⟨s, hs, hi⟩
  have hsome : (word? (lead ++ c :: rest)).isSome = true := isSome_word? hlength hlead hc
  rw [← hdrop, hnone] at hsome
  cases hsome

end Pass

section Runs

variable {name t before w after : Text} {c : Char} {i : Nat}

theorem exists_mem_getElem? (before w after : Text) (hstart : before.length ≤ i)
    (hstop : i < before.length + w.length) : ∃ d ∈ w, (before ++ w ++ after)[i]? = some d := by
  have hi : i - before.length < w.length := by omega
  refine ⟨w[i - before.length], List.getElem_mem hi, ?_⟩
  rw [List.append_assoc, List.getElem?_append_right hstart, List.getElem?_append_left hi,
    List.getElem?_eq_getElem hi]

theorem isCapitalRun_of_append (hw : ∀ c ∈ w, isCapitalAscii c = true)
    (hbefore : ∀ c ∈ before.getLast?, isCapitalAscii c = false)
    (hafter : ∀ c ∈ after.head?, isCapitalAscii c = false) :
    IsCapitalRun (before ++ w ++ after) ⟨before.length, before.length + w.length⟩ where
  capital i hi := by
    obtain ⟨c, hc, hget⟩ := exists_mem_getElem? before w after hi.1 hi.2
    exact ⟨c, hget, hw c hc⟩
  before i c hi hget := by
    dsimp only at hi
    apply hbefore c
    rw [List.append_assoc, List.getElem?_append_left (by omega)] at hget
    rw [List.getLast?_eq_getElem?, ← hi]
    exact hget
  behind c hget := by
    apply hafter c
    rw [← List.length_append, List.getElem?_append_right (Nat.le_refl _), Nat.sub_self] at hget
    rwa [List.head?_eq_getElem?]

theorem exists_isCapitalRun_append (hc : isCapitalAscii c = true) (before after : Text) :
    ∃ s, IsCapitalRun (before ++ c :: after) s ∧ s.Holds before.length := by
  obtain ⟨front, hfront, hcapitals, hlast⟩ := Text.exists_dropTrailing_append isCapitalAscii before
  generalize Text.dropTrailing isCapitalAscii before = outer at hfront hlast
  have hback := List.takeWhile_append_dropWhile (p := isCapitalAscii) (l := after)
  have hrun : ∀ d ∈ front ++ c :: after.takeWhile isCapitalAscii, isCapitalAscii d = true := by
    simp only [List.forall_mem_append, List.forall_mem_cons]
    exact ⟨hcapitals, hc, fun d hd => List.mem_takeWhile_imp hd⟩
  have hsplit : before ++ c :: after =
      outer ++ (front ++ c :: after.takeWhile isCapitalAscii) ++
        after.dropWhile isCapitalAscii := by
    rw [hfront]
    simp [hback]
  rw [hsplit]
  refine ⟨_, isCapitalRun_of_append hrun hlast fun d hd => Text.head?_dropWhile_eq_false hd, ?_⟩
  simp only [Span.Holds, hfront, List.length_append, List.length_cons]
  omega

/-- Every capital stands in a run. -/
theorem exists_isCapitalRun (hget : t[i]? = some c) (hc : isCapitalAscii c = true) :
    ∃ s, IsCapitalRun t s ∧ s.Holds i := by
  obtain ⟨hi, rfl⟩ := List.getElem?_eq_some_iff.mp hget
  have hrun := exists_isCapitalRun_append hc (t.take i) (t.drop (i + 1))
  rwa [List.getElem_cons_drop, List.take_append_drop,
    List.length_take_of_le (Nat.le_of_lt hi)] at hrun

/-- A capital in a word leads it, so its run ends before the body, which is in the word too. -/
theorem exists_run_of_inWord (hget : name[i]? = some c) (hc : isCapitalAscii c = true)
    (hin : InWord name i) :
    ∃ r, IsCapitalRun name r ∧ r.Holds i ∧ r.stop ≤ i + 2 ∧
      ∃ d, name[r.stop]? = some d ∧ d ≠ '_' := by
  obtain ⟨r, hr, hri⟩ := exists_isCapitalRun hget hc
  obtain ⟨s, hs, hi⟩ := hin
  obtain ⟨before, w, after, rfl, hw, rfl⟩ := exists_of_mem_wordSpans hs
  obtain ⟨lead, body, rfl, hlead, -, hne, hbody⟩ := hw.parts
  simp only [Span.Holds, Nat.zero_add, List.length_append] at hi hri
  have hpos := List.length_pos_iff.mpr hne
  have hbodies : ∀ j, before.length + lead.length ≤ j →
      j < before.length + lead.length + body.length →
      ∃ d, (before ++ (lead ++ body) ++ after)[j]? = some d ∧ isCapitalAscii d = false := by
    intro j hj hj'
    rw [← List.length_append] at hj hj'
    obtain ⟨d, hd, hgetd⟩ := exists_mem_getElem? (before ++ lead) body after hj hj'
    rw [List.append_assoc before] at hgetd
    exact ⟨d, hgetd, (isBody_iff.mp (hbody d hd)).2⟩
  -- The place is in the lead, since the body holds no capital, and so the run ends with the lead.
  have hleads : i < before.length + lead.length := by
    by_contra hi'
    obtain ⟨d, hgetd, hd⟩ := hbodies i (by omega) (by omega)
    rw [hget] at hgetd
    rw [Option.some.inj hgetd, hd] at hc
    cases hc
  have hstop : r.stop ≤ before.length + lead.length := by
    by_contra hstop
    obtain ⟨d, hgetd, hd⟩ := hbodies (before.length + lead.length) (by omega) (by omega)
    obtain ⟨e, hgete, he⟩ := hr.capital (before.length + lead.length) ⟨by omega, by omega⟩
    rw [hgete] at hgetd
    rw [Option.some.inj hgetd, hd] at he
    cases he
  refine ⟨r, hr, hri, by omega, ?_⟩
  have hword : r.stop < before.length + (lead ++ body).length := by
    rw [List.length_append]
    omega
  obtain ⟨d, hd, hgetd⟩ := exists_mem_getElem? before (lead ++ body) after (by omega) hword
  refine ⟨d, hgetd, ?_⟩
  rintro rfl
  exact hw.underscore_notMem hd

/-- The last two capitals of a run lead the word behind it, if there is one. -/
theorem inWord_of_run {r : Span} {d : Char} (hr : IsCapitalRun name r) (hi : r.Holds i)
    (hstop : r.stop ≤ i + 2) (hget : name[r.stop]? = some d) (hd : d ≠ '_') : InWord name i := by
  obtain ⟨hlength, rfl⟩ := List.getElem?_eq_some_iff.mp hget
  have hdrop : name.drop i =
      (name.drop i).take (r.stop - i) ++ name[r.stop] :: name.drop (r.stop + 1) := by
    have hsplit := List.take_append_drop (r.stop - i) (name.drop i)
    rw [List.drop_drop, Nat.add_sub_cancel' (Nat.le_of_lt hi.2)] at hsplit
    rw [List.getElem_cons_drop, hsplit]
  apply inWord_of_drop hdrop
  · rw [List.length_take]
    omega
  · intro e he
    obtain ⟨k, hk⟩ := List.mem_iff_getElem?.mp he
    rw [List.getElem?_take, List.getElem?_drop] at hk
    split at hk
    · obtain ⟨e', hget', he'⟩ := hr.capital (i + k) ⟨by have := hi.1; omega, by omega⟩
      rw [hget'] at hk
      rw [← Option.some.inj hk]
      exact isLead_of_isCapitalAscii he'
    · cases hk
  · exact isBody_iff.mpr ⟨hd, hr.behind _ hget⟩

end Runs

/-- The words that a phrase joins stand one behind the other in the name. They hold no underscore,
every other character that is no capital, and of each run of capitals the last two, if the run is
followed by something else than an underscore. -/
theorem phrase_keeps_characters (name : Text) :
    phrase .camel name = lowerText (Text.joinWith [' '] (words name)) ∧
      words name = (wordSpans 0 name).map (Span.cut name) ∧
      (wordSpans 0 name).Pairwise (fun a b => a.stop ≤ b.start) ∧
      (∀ s ∈ wordSpans 0 name, s.start < s.stop ∧ s.stop ≤ name.length) ∧
      (∀ w ∈ words name, '_' ∉ w) ∧
      ∀ i c, name[i]? = some c →
        (c ≠ '_' → isCapitalAscii c = false → InWord name i) ∧
        (isCapitalAscii c = true →
          (InWord name i ↔
            ∃ r, IsCapitalRun name r ∧ r.Holds i ∧ r.stop ≤ i + 2 ∧
              ∃ d, name[r.stop]? = some d ∧ d ≠ '_')) := by
  refine ⟨rfl, words_eq_map_cut [] name, pairwise_wordSpans 0 name, ?_, ?_, ?_⟩
  · intro s hs
    obtain ⟨before, w, after, rfl, hw, rfl⟩ := exists_of_mem_wordSpans hs
    have hpos := List.length_pos_iff.mpr hw.ne_nil
    simp only [List.length_append]
    omega
  · exact fun w hw => underscore_notMem_of_mem_words hw
  · intro i c hget
    constructor
    · intro hunderscore hsmall
      obtain ⟨hi, rfl⟩ := List.getElem?_eq_some_iff.mp hget
      have hdrop : name.drop i = [] ++ name[i] :: name.drop (i + 1) := by
        rw [List.getElem_cons_drop, List.nil_append]
      exact inWord_of_drop hdrop (by simp) (by simp) (isBody_iff.mpr ⟨hunderscore, hsmall⟩)
    · intro hc
      constructor
      · exact exists_run_of_inWord hget hc
      · rintro ⟨r, hr, hi, hstop, d, hd, hne⟩
        exact inWord_of_run hr hi hstop hd hne

/-- A name with a run of five capitals inside and one of two at the end. -/
def acronymName : Text := "parseHTTPResponse_ID"

/-- The last capital but one of the run inside is kept and the one before it is not. -/
theorem acronymName_keeps_characters :
    (acronymName[0]? = some 'p' ∧ InWord acronymName 0) ∧
      (acronymName[8]? = some 'P' ∧ InWord acronymName 8) ∧
      (acronymName[7]? = some 'T' ∧ ¬InWord acronymName 7) ∧
      acronymName[19]? = some 'D' ∧ ¬InWord acronymName 19 := by
  have hkeeps := (phrase_keeps_characters acronymName).2.2.2.2.2
  have hinside :
      IsCapitalRun ("parse".toList ++ "HTTPR".toList ++ "esponse_ID".toList) ⟨5, 10⟩ := by
    apply isCapitalRun_of_append (List.all_eq_true.mp rfl)
    · rintro _ ⟨⟩
      rfl
    · rintro _ ⟨⟩
      rfl
  refine ⟨⟨rfl, (hkeeps 0 'p' rfl).1 (by decide) (by decide)⟩, ⟨rfl, ?_⟩, ⟨rfl, ?_⟩, rfl, ?_⟩
  · apply ((hkeeps 8 'P' rfl).2 (by decide)).mpr
    exact ⟨⟨5, 10⟩, hinside, ⟨by decide, by decide⟩, by decide, 'e', rfl, by decide⟩
  · intro hin
    obtain ⟨r, hr, hi, hstop, -⟩ := ((hkeeps 7 'T' rfl).2 (by decide)).mp hin
    have hcases : r.stop = 8 ∨ r.stop = 9 := by
      have := hi.2
      omega
    have hbehind := hr.behind
    rcases hcases with h | h
    · rw [h] at hbehind
      exact absurd (hbehind 'P' rfl) (by decide)
    · rw [h] at hbehind
      exact absurd (hbehind 'R' rfl) (by decide)
  · intro hin
    obtain ⟨r, -, hi, -, d, hd, -⟩ := ((hkeeps 19 'D' rfl).2 (by decide)).mp hin
    have hlength : acronymName.length = 20 := rfl
    have := (List.getElem?_eq_some_iff.mp hd).1
    have := hi.2
    omega

end Naming

end Accessors

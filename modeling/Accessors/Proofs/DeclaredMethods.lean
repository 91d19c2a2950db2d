import Accessors.Proofs.NameCharacters
import Accessors.Source.Method
import Mathlib.Data.List.Basic
import Mathlib.Data.List.TakeWhile
import Mathlib.Tactic.Conv

/-!
# What counts as a declared method

The search for a method tries every place of a source. Its answer is described here by the shape
of the text alone: a spelling of the declaration stands somewhere outside a word. The answer then
depends on the letters of the name only up to case, and text put before a closing brace hides no
declaration.
-/

namespace Accessors

namespace Method

/-- The spellings of a method's declaration, from the keyword to the opening parenthesis. -/
inductive Spelling (name : Text) : Text → Prop
  | intro (keyword gap mark method pad : Text)
      (hkeyword : keyword.map Char.toLower = functionKeyword)
      (hgap : gap ≠ []) (hspace : ∀ c ∈ gap, isSpace c)
      (hmark : mark = [] ∨ mark = ['&'])
      (hmethod : method.map fold = name.map fold)
      (hpad : ∀ c ∈ pad, isSpace c) :
      Spelling name (keyword ++ gap ++ mark ++ method ++ pad ++ ['('])

/-- A word can begin after `p`: it is empty or its last character belongs to no word. -/
def EndsWord (p : Text) : Prop :=
  ∀ c ∈ p.getLast?, isWord c = false

theorem endsWord_nil : EndsWord [] := by
  intro c hc
  cases hc

theorem endsWord_append {p r : Text} (h : r ≠ []) : EndsWord (p ++ r) ↔ EndsWord r := by
  rw [EndsWord, EndsWord, List.getLast?_append_of_ne_nil _ h]

theorem afterName?_eq_some_iff {name t rest : Text} :
    afterName? name t = some rest ↔ ∃ m, t = m ++ rest ∧ m.map fold = name.map fold := by
  induction name generalizing t with
  | nil =>
    constructor
    · intro h
      exact ⟨[], by simpa [afterName?] using h, rfl⟩
    · rintro ⟨m, rfl, hm⟩
      rw [List.map_nil, List.map_eq_nil_iff] at hm
      simp [afterName?, hm]
  | cons n name ih =>
    cases t with
    | nil =>
      constructor
      · intro h
        cases h
      · rintro ⟨m, hm, hf⟩
        obtain ⟨rfl, -⟩ := List.append_eq_nil_iff.mp hm.symm
        cases hf
    | cons c t =>
      rw [afterName?]
      constructor
      · intro h
        split at h
        · next hc =>
          obtain ⟨m, rfl, hm⟩ := ih.mp h
          have hc : fold n = fold c := by simpa [sameLetter] using hc
          exact ⟨c :: m, rfl, by simp [hm, hc]⟩
        · cases h
      · rintro ⟨m, hm, hf⟩
        cases m with
        | nil => cases hf
        | cons d m =>
          obtain ⟨rfl, rfl⟩ := List.cons.inj hm
          obtain ⟨hd, hf⟩ := List.cons.inj hf
          rw [if_pos (by simp [sameLetter, hd])]
          exact ih.mpr ⟨m, rfl, hf⟩

theorem isSpace_parenthesis : isSpace '(' = false := by decide

theorem head?_dropWhile_isSpace_iff {t : Text} :
    (t.dropWhile isSpace).head? = some '(' ↔
      ∃ pad rest, t = pad ++ '(' :: rest ∧ ∀ c ∈ pad, isSpace c := by
  constructor
  · intro h
    obtain ⟨rest, hr⟩ := List.head?_eq_some_iff.mp h
    refine ⟨t.takeWhile isSpace, rest, ?_, fun c hc => List.mem_takeWhile_imp hc⟩
    rw [← hr, List.takeWhile_append_dropWhile]
  · rintro ⟨pad, rest, rfl, hp⟩
    rw [List.dropWhile_append_of_pos hp, List.dropWhile_cons_of_neg (by simp [isSpace_parenthesis])]
    rfl

theorem namesParameters_iff {name t : Text} :
    namesParameters name t = true ↔
      ∃ method pad rest, t = method ++ pad ++ '(' :: rest ∧
        method.map fold = name.map fold ∧ ∀ c ∈ pad, isSpace c := by
  constructor
  · intro h
    rw [namesParameters] at h
    split at h
    · next rest hr =>
      obtain ⟨method, rfl, hm⟩ := afterName?_eq_some_iff.mp hr
      obtain ⟨pad, q, rfl, hp⟩ := head?_dropWhile_isSpace_iff.mp (by simpa using h)
      exact ⟨method, pad, q, by simp, hm, hp⟩
    · cases h
  · rintro ⟨method, pad, rest, rfl, hm, hp⟩
    have hr : afterName? name (method ++ pad ++ '(' :: rest) = some (pad ++ '(' :: rest) :=
      afterName?_eq_some_iff.mpr ⟨method, by simp, hm⟩
    have hh := head?_dropWhile_isSpace_iff.mpr ⟨pad, rest, rfl, hp⟩
    rw [namesParameters, hr]
    simpa using hh

theorem namesMethod_iff {name t : Text} :
    namesMethod name t = true ↔
      ∃ mark u, t = mark ++ u ∧ (mark = [] ∨ mark = ['&']) ∧ namesParameters name u = true := by
  constructor
  · intro h
    unfold namesMethod at h
    split at h
    · next t =>
      rcases Bool.or_eq_true_iff.mp h with h | h
      · exact ⟨[], '&' :: t, rfl, .inl rfl, h⟩
      · exact ⟨['&'], t, rfl, .inr rfl, h⟩
    · exact ⟨[], t, rfl, .inl rfl, h⟩
  · rintro ⟨mark, u, rfl, rfl | rfl, h⟩
    · rw [List.nil_append]
      unfold namesMethod
      split
      · exact Bool.or_eq_true_iff.mpr (.inl h)
      · exact h
    · exact Bool.or_eq_true_iff.mpr (.inr h)

theorem spaceThenMethod_iff {name t : Text} :
    spaceThenMethod name t = true ↔
      ∃ gap u, t = gap ++ u ∧ gap ≠ [] ∧ (∀ c ∈ gap, isSpace c) ∧ namesMethod name u = true := by
  induction t with
  | nil =>
    constructor
    · intro h
      cases h
    · rintro ⟨gap, u, h, hg, -⟩
      exact absurd (List.append_eq_nil_iff.mp h.symm).1 hg
  | cons c t ih =>
    rw [spaceThenMethod, Bool.and_eq_true_iff, Bool.or_eq_true_iff, ih]
    constructor
    · rintro ⟨hc, h | ⟨gap, u, rfl, -, hs, h⟩⟩
      · exact ⟨[c], t, rfl, List.cons_ne_nil _ _, by simpa using hc, h⟩
      · exact ⟨c :: gap, u, rfl, List.cons_ne_nil _ _, by simpa using ⟨hc, hs⟩, h⟩
    · rintro ⟨gap, u, h, hg, hs, hu⟩
      cases gap with
      | nil => exact absurd rfl hg
      | cons d gap =>
        obtain ⟨rfl, rfl⟩ := List.cons.inj h
        obtain ⟨hc, hs⟩ := List.forall_mem_cons.mp hs
        refine ⟨hc, ?_⟩
        cases gap with
        | nil => exact .inl hu
        | cons e gap => exact .inr ⟨e :: gap, u, rfl, List.cons_ne_nil _ _, hs, hu⟩

theorem beginsMethod_iff_keyword {name t : Text} :
    beginsMethod name t = true ↔ ∃ keyword rest, t = keyword ++ rest ∧
      keyword.map Char.toLower = functionKeyword ∧ spaceThenMethod name rest = true := by
  rw [beginsMethod, Bool.and_eq_true_iff, beq_iff_eq]
  constructor
  · rintro ⟨hk, hrest⟩
    exact ⟨_, _, (List.take_append_drop _ t).symm, hk, hrest⟩
  · rintro ⟨keyword, rest, rfl, hk, hrest⟩
    have hlength : keyword.length = functionKeyword.length := by rw [← hk, List.length_map]
    rw [List.take_left' hlength, List.drop_left' hlength]
    exact ⟨hk, hrest⟩

/-- A declaration begins a text exactly if one of its spellings does. -/
theorem beginsMethod_iff {name t : Text} :
    beginsMethod name t = true ↔ ∃ d rest, t = d ++ rest ∧ Spelling name d := by
  rw [beginsMethod_iff_keyword]
  constructor
  · rintro ⟨keyword, t, rfl, hk, ht⟩
    obtain ⟨gap, u, rfl, hg, hs, hm⟩ := spaceThenMethod_iff.mp ht
    obtain ⟨mark, v, rfl, hmark, hv⟩ := namesMethod_iff.mp hm
    obtain ⟨method, pad, rest, rfl, hmethod, hp⟩ := namesParameters_iff.mp hv
    refine ⟨_, rest, ?_, .intro keyword gap mark method pad hk hg hs hmark hmethod hp⟩
    simp only [List.append_assoc, List.cons_append, List.nil_append]
  · rintro ⟨d, rest, rfl, ⟨keyword, gap, mark, method, pad, hk, hg, hs, hmark, hmethod, hp⟩⟩
    refine ⟨keyword, gap ++ (mark ++ (method ++ pad ++ '(' :: rest)), by simp, hk, ?_⟩
    have hparameters : namesParameters name (method ++ pad ++ '(' :: rest) = true :=
      namesParameters_iff.mpr ⟨method, pad, rest, rfl, hmethod, hp⟩
    exact spaceThenMethod_iff.mpr
      ⟨gap, _, rfl, hg, hs, namesMethod_iff.mpr ⟨mark, _, rfl, hmark, hparameters⟩⟩

theorem declaresFrom_iff {name t : Text} {inWord : Bool} :
    declaresFrom name inWord t = true ↔
      ∃ p d rest, t = p ++ d ++ rest ∧ Spelling name d ∧ EndsWord p ∧
        (p = [] → inWord = false) := by
  induction t generalizing inWord with
  | nil =>
    constructor
    · intro h
      cases h
    · rintro ⟨p, d, rest, h, ⟨⟩, -⟩
      simp at h
  | cons c t ih =>
    rw [declaresFrom, Bool.or_eq_true_iff, Bool.and_eq_true_iff, beginsMethod_iff, ih]
    constructor
    · rintro (⟨hw, d, rest, h, hd⟩ | ⟨p, d, rest, rfl, hd, hp, hc⟩)
      · exact ⟨[], d, rest, by simpa using h, hd, endsWord_nil, fun _ => by simpa using hw⟩
      · refine ⟨c :: p, d, rest, by simp, hd, ?_, fun h => by cases h⟩
        cases p with
        | nil => simpa [EndsWord] using hc rfl
        | cons e p => exact (endsWord_append (p := [c]) (List.cons_ne_nil e p)).mpr hp
    · rintro ⟨p, d, rest, h, hd, hp, hw⟩
      cases p with
      | nil => exact .inl ⟨by simp [hw rfl], d, rest, by simpa using h, hd⟩
      | cons e p =>
        simp only [List.cons_append, List.cons.injEq] at h
        obtain ⟨rfl, rfl⟩ := h
        refine .inr ⟨p, d, rest, by simp, hd, ?_, ?_⟩
        · cases p with
          | nil => exact endsWord_nil
          | cons e' p => exact (endsWord_append (p := [c]) (List.cons_ne_nil e' p)).mp hp
        · rintro rfl
          exact hp c (by simp)

/-- A method is declared exactly if a spelling of its declaration stands where a word can
begin. -/
theorem declares_iff {source name : Text} :
    declares source name = true ↔
      ∃ p d rest, source = p ++ d ++ rest ∧ Spelling name d ∧ EndsWord p := by
  rw [declares, declaresFrom_iff]
  simp

theorem Spelling.congr {n m d : Text} (h : n.map fold = m.map fold) (hd : Spelling n d) :
    Spelling m d := by
  obtain ⟨keyword, gap, mark, method, pad, hk, hg, hs, hmark, hmethod, hp⟩ := hd
  exact .intro keyword gap mark method pad hk hg hs hmark (hmethod.trans h) hp

/-- Names that differ in letter case only are declared by the same sources. -/
theorem declares_congr {source n m : Text} (h : n.map fold = m.map fold) :
    declares source n = true ↔ declares source m = true := by
  rw [declares_iff, declares_iff]
  constructor
  · rintro ⟨p, d, rest, hs, hd, hp⟩
    exact ⟨p, d, rest, hs, hd.congr h, hp⟩
  · rintro ⟨p, d, rest, hs, hd, hp⟩
    exact ⟨p, d, rest, hs, hd.congr h.symm, hp⟩

/-- The spelling that generated code uses: one space, no mark, and the name as it is. -/
theorem Spelling.plain (name : Text) : Spelling name ("function ".toList ++ name ++ ['(']) := by
  have h : Spelling name ("function".toList ++ [' '] ++ [] ++ name ++ [] ++ ['(']) :=
    .intro _ _ _ _ _ (by decide) (by decide) (List.all_eq_true.mp rfl) (.inl rfl) rfl (by simp)
  simpa using h

theorem notMem_keyword {keyword : Text} {c : Char} (hc : c.toLower ∉ functionKeyword)
    (h : keyword.map Char.toLower = functionKeyword) : c ∉ keyword := by
  intro hmem
  rw [← h] at hc
  exact hc (List.mem_map_of_mem hmem)

/-- A character that can stand in no spelling of the name before the parenthesis. -/
structure Bars (name : Text) (c : Char) : Prop where
  space : isSpace c = false
  mark : c ≠ '&'
  keyword : c.toLower ∉ functionKeyword
  name : ∀ x ∈ name, fold x ≠ fold c

theorem bars_of_isName {name : Text} {c : Char} (h : name.IsName) (hc : isNameChar (fold c) = false)
    (hspace : isSpace c = false) (hmark : c ≠ '&') (hkeyword : c.toLower ∉ functionKeyword) :
    Bars name c :=
  ⟨hspace, hmark, hkeyword, fun _ hx => h.fold_ne hc hx⟩

theorem bars_closingBrace {name : Text} (h : name.IsName) : Bars name '\x7d' :=
  bars_of_isName h (by decide) (by decide) (by decide) (by decide)

theorem bars_parenthesis {name : Text} (h : name.IsName) : Bars name '(' :=
  bars_of_isName h (by decide) (by decide) (by decide) (by decide)

theorem Spelling.exists_eq_append {name d : Text} (hd : Spelling name d) :
    ∃ body, d = body ++ ['('] ∧ ∀ c, Bars name c → c ∉ body := by
  obtain ⟨keyword, gap, mark, method, pad, hk, -, hs, hmark, hmethod, hp⟩ := hd
  refine ⟨_, rfl, fun c hc => ?_⟩
  have hspaces : ∀ {t : Text}, (∀ x ∈ t, isSpace x) → c ∉ t := by
    intro t ht hmem
    have hspace := ht c hmem
    rw [hc.space] at hspace
    cases hspace
  have hmark' : c ∉ mark := by
    rcases hmark with rfl | rfl
    · exact List.not_mem_nil
    · simpa using hc.mark
  have hmethod' : c ∉ method := by
    intro hmem
    have hfold : fold c ∈ name.map fold := hmethod ▸ List.mem_map_of_mem hmem
    obtain ⟨x, hx, heq⟩ := List.mem_map.mp hfold
    exact hc.name x hx heq
  simp [notMem_keyword hc.keyword hk, hspaces hs, hspaces hp, hmark', hmethod']

theorem Spelling.notMem {name d : Text} {c : Char} (hd : Spelling name d) (hc : Bars name c)
    (hopen : c ≠ '(') : c ∉ d := by
  obtain ⟨body, rfl, hbody⟩ := hd.exists_eq_append
  simp [hbody c hc, hopen]

/-- A part of a text lies on one side of a `c` unless that `c` is one of its characters. -/
theorem part_beside_of_split {before after p d rest : Text} {c : Char}
    (hc : ∀ u v, d = u ++ c :: v → before ≠ p ++ u) (h : before ++ c :: after = p ++ d ++ rest) :
    (∃ x, before = p ++ d ++ x ∧ rest = x ++ c :: after) ∨
      ∃ y, p = before ++ c :: y ∧ after = y ++ d ++ rest := by
  rcases List.append_eq_append_iff.mp h with ⟨x, hpd, hr⟩ | ⟨x, hb, hr⟩
  · cases x with
    | nil => exact .inl ⟨[], by simpa using hpd.symm, by simpa using hr.symm⟩
    | cons e w =>
      obtain ⟨rfl, rfl⟩ := List.cons.inj hr
      rcases List.append_eq_append_iff.mp hpd with ⟨u, hb, hd⟩ | ⟨y, hp, hy⟩
      · exact absurd hb (hc u w hd)
      · cases y with
        | nil => exact absurd (by simpa using hp.symm) (hc [] w hy.symm)
        | cons e y =>
          obtain ⟨rfl, rfl⟩ := List.cons.inj hy
          exact .inr ⟨y, hp, rfl⟩
  · exact .inl ⟨x, hb, hr⟩

/-- A part of a text that does not hold `c` lies on one side of each `c`. -/
theorem part_beside {before after p d rest : Text} {c : Char} (hc : c ∉ d)
    (h : before ++ c :: after = p ++ d ++ rest) :
    (∃ x, before = p ++ d ++ x ∧ rest = x ++ c :: after) ∨
      ∃ y, p = before ++ c :: y ∧ after = y ++ d ++ rest := by
  refine part_beside_of_split (fun u v hd => absurd ?_ hc) h
  rw [hd]
  exact List.mem_append_right u List.mem_cons_self

theorem EndsWord.of_append {p q : Text} (h : EndsWord (p ++ q)) : EndsWord q := by
  cases q with
  | nil => exact endsWord_nil
  | cons c q => exact (endsWord_append (List.cons_ne_nil c q)).mp h

/-- Text put before a closing brace hides no declaration: a spelling holds no brace, so it lies
on one side of it. -/
theorem declares_insert {name before after : Text} (code : Text) (hname : Bars name '\x7d')
    (h : declares (before ++ '\x7d' :: after) name = true) :
    declares (before ++ code ++ '\x7d' :: after) name = true := by
  obtain ⟨p, d, rest, hs, hd, hp⟩ := declares_iff.mp h
  rw [declares_iff]
  rcases part_beside (hd.notMem hname (by decide)) hs with ⟨x, rfl, -⟩ | ⟨y, rfl, rfl⟩
  · exact ⟨p, d, x ++ code ++ '\x7d' :: after, by simp, hd, hp⟩
  · refine ⟨before ++ code ++ '\x7d' :: y, d, rest, by simp, hd, ?_⟩
    rw [endsWord_append (List.cons_ne_nil _ _)] at hp ⊢
    exact hp

variable {name a b : Text} {c : Char}

/-- A declaration lies on one side of a character that its spelling cannot hold. -/
theorem declares_append_cons (hc : Bars name c) (hopen : c ≠ '(')
    (h : declares (a ++ c :: b) name = true) :
    declares a name = true ∨ declares b name = true := by
  obtain ⟨p, d, rest, hs, hd, hp⟩ := declares_iff.mp h
  rcases part_beside (hd.notMem hc hopen) hs with ⟨x, rfl, -⟩ | ⟨y, rfl, rfl⟩
  · exact .inl (declares_iff.mpr ⟨p, d, x, rfl, hd, hp⟩)
  · have hy : EndsWord ((a ++ [c]) ++ y) := by simpa using hp
    exact .inr (declares_iff.mpr ⟨y, d, rest, rfl, hd, hy.of_append⟩)

/-- A declaration ends at or before a parenthesis, or lies behind it. -/
theorem declares_append_parenthesis (hopen : Bars name '(')
    (h : declares (a ++ '(' :: b) name = true) :
    declares (a ++ ['(']) name = true ∨ declares b name = true := by
  obtain ⟨p, d, rest, hs, hd, hp⟩ := declares_iff.mp h
  obtain ⟨body, rfl, hbody⟩ := hd.exists_eq_append
  have hparts : a ++ '(' :: b = p ++ body ++ '(' :: rest := by simpa using hs
  rcases part_beside (hbody '(' hopen) hparts with ⟨x, rfl, hx⟩ | ⟨y, rfl, rfl⟩
  · left
    cases x with
    | nil => exact declares_iff.mpr ⟨p, _, [], by simp, hd, hp⟩
    | cons e x =>
      obtain ⟨rfl, -⟩ := List.cons.inj hx
      exact declares_iff.mpr ⟨p, _, x ++ ['('], by simp, hd, hp⟩
  · have hy : EndsWord ((a ++ ['(']) ++ y) := by simpa using hp
    exact .inr (declares_iff.mpr ⟨y, _, rest, by simp, hd, hy.of_append⟩)

/-- A declaration does not reach into what holds no parenthesis. -/
theorem declares_of_append_right (hb : '(' ∉ b) (h : declares (a ++ b) name = true) :
    declares a name = true := by
  obtain ⟨p, d, rest, hs, hd, hp⟩ := declares_iff.mp h
  obtain ⟨body, rfl, -⟩ := hd.exists_eq_append
  have hparts : a ++ b = (p ++ body) ++ '(' :: rest := by simpa using hs
  rcases List.append_eq_append_iff.mp hparts with ⟨x, -, rfl⟩ | ⟨x, rfl, hx⟩
  · simp at hb
  · cases x with
    | nil =>
      rw [List.nil_append] at hx
      exact absurd (hx ▸ List.mem_cons_self) hb
    | cons e x =>
      obtain ⟨rfl, -⟩ := List.cons.inj hx
      exact declares_iff.mpr ⟨p, _, x, by simp, hd, hp⟩

theorem Spelling.exists_eq_cons {d : Text} (hd : Spelling name d) :
    ∃ e t, d = e :: t ∧ e.toLower = 'f' := by
  obtain ⟨keyword, gap, mark, method, pad, hk, -⟩ := hd
  cases keyword with
  | nil => cases hk
  | cons e keyword => exact ⟨e, _, rfl, (List.cons.inj hk).1⟩

/-- A declaration does not begin in what holds no first letter of the keyword. -/
theorem declares_of_append_left (ha : a.all (·.toLower != 'f') = true)
    (h : declares (a ++ b) name = true) : declares b name = true := by
  induction a with
  | nil => exact h
  | cons e a ih =>
    rw [List.all_cons, Bool.and_eq_true, bne_iff_ne] at ha
    obtain ⟨he, ha⟩ := ha
    apply ih ha
    obtain ⟨p, d, rest, hs, hd, hp⟩ := declares_iff.mp h
    cases p with
    | nil =>
      obtain ⟨e', t, rfl, he'⟩ := hd.exists_eq_cons
      obtain ⟨rfl, -⟩ := List.cons.inj hs
      exact absurd he' he
    | cons e' p =>
      have hp' : EndsWord ([e'] ++ p) := hp
      exact declares_iff.mpr ⟨p, d, rest, (List.cons.inj hs).2, hd, hp'.of_append⟩

/-- What code declares after its beginning, a source that holds the code declares too. -/
theorem declares_of_part {name p rest : Text} (before after : Text) (hne : p ≠ [])
    (hp : EndsWord p) :
    declares (before ++ (p ++ ("function ".toList ++ name ++ ['(']) ++ rest) ++ after) name =
      true := by
  refine declares_iff.mpr ⟨before ++ p, _, rest ++ after, by simp, .plain name, ?_⟩
  exact (endsWord_append hne).mpr hp

end Method

end Accessors

import Accessors.Proofs.BatchOutcome
import Accessors.Proofs.DeclaredMethods
import Accessors.Proofs.SurveyStability

/-!
# Line endings do not matter

A source may end its lines in a line feed, or in a carriage return and a line feed. The return is
then the last character of its line, where the reading of a declaration, the search for a doc
block and the search for a method each pass over it.
-/

namespace Accessors

open Text

namespace Text

def withReturns (t : Text) : Text :=
  t.flatMap fun c => if c = '\n' then ['\r', '\n'] else [c]

theorem withReturns_newline (t : Text) : withReturns ('\n' :: t) = '\r' :: '\n' :: withReturns t :=
  rfl

theorem withReturns_cons {c : Char} (hc : c ≠ '\n') (t : Text) :
    withReturns (c :: t) = c :: withReturns t := by
  simp [withReturns, hc]

theorem withReturns_eq_self {t : Text} (h : '\n' ∉ t) : withReturns t = t := by
  induction t with
  | nil => rfl
  | cons c t ih =>
    obtain ⟨hc, ht⟩ := List.ne_and_not_mem_of_not_mem_cons h
    rw [withReturns_cons (Ne.symm hc), ih ht]

theorem withReturns_append (a b : Text) : withReturns (a ++ b) = withReturns a ++ withReturns b :=
  List.flatMap_append

/-- A line as it stands before a carriage return and a line feed. -/
def closed (line : Text) : Text :=
  line ++ ['\r']

theorem joinWith_returns (ps : List Text) (p : Text) :
    joinWith ['\r', '\n'] (ps ++ [p]) = joinWith ['\n'] (ps.map closed ++ [p]) := by
  induction ps with
  | nil => simp [joinWith]
  | cons q ps ih =>
    simp only [joinWith, List.map_cons, List.cons_append] at ih ⊢
    rw [List.intercalate_cons_of_ne_nil (by simp), List.intercalate_cons_of_ne_nil (by simp), ih]
    simp [closed]

/-- All lines but the last get a carriage return. -/
theorem lines_withReturns {t p : Text} {ps : List Text} (h : lines t = ps ++ [p]) :
    lines (withReturns t) = ps.map closed ++ [p] := by
  have hlines : ∀ l ∈ ps ++ [p], '\n' ∉ l := fun l hl => newline_notMem_of_mem_lines (h ▸ hl)
  have hsame : (ps ++ [p]).map withReturns = ps ++ [p] := by
    rw [List.map_congr_left fun l hl => withReturns_eq_self (hlines l hl), List.map_id']
  have hjoin : withReturns t = joinWith ['\r', '\n'] ((ps ++ [p]).map withReturns) := by
    conv_lhs => rw [← joinWith_lines t, h]
    exact flatMap_intercalate _ '\n' _
  rw [hjoin, hsame, joinWith_returns]
  refine lines_joinWith ?_ (by simp)
  intro l hl
  rcases List.mem_append.mp hl with hl | hl
  · obtain ⟨q, hq, rfl⟩ := List.mem_map.mp hl
    simpa [closed] using hlines q (List.mem_append_left _ hq)
  · exact hlines l (List.mem_append_right _ hl)

theorem dropWhile_closed {p : Char → Bool} (hp : p '\r' = false) (t : Text) :
    (closed t).dropWhile p = closed (t.dropWhile p) := by
  induction t with
  | nil => exact List.dropWhile_cons_of_neg (by simp [hp])
  | cons c t ih =>
    by_cases hc : p c = true
    · rw [closed, List.cons_append, List.dropWhile_cons_of_pos hc, List.dropWhile_cons_of_pos hc]
      exact ih
    · rw [closed, List.cons_append, List.dropWhile_cons_of_neg hc, List.dropWhile_cons_of_neg hc]
      rfl

theorem trim_closed (t : Text) : trim (closed t) = trim t := by
  have hreturn : ∀ c ∈ ['\r'], isSpace c := by
    intro c hc
    rw [List.mem_singleton.mp hc]
    decide
  exact trimBy_append (a := []) (by simp) hreturn t

end Text

theorem Visibility.read?_closed (t : Text) :
    read? (closed t) = (read? t).map fun (v, rest) => (v, closed rest) := by
  apply read?_concat
  intro v
  cases v <;> decide

namespace DeclarationLine

theorem skipWords_closed (n : Nat) (t : Text) :
    skipWords n (closed t) = closed (skipWords n t) := by
  induction n generalizing t with
  | zero => rfl
  | succ n ih =>
    have hlength : ∀ u, (closed u).length = u.length + 1 := fun u => by simp [closed]
    rw [skipWords, skipWords, dropWhile_closed (by decide), dropWhile_closed (by decide)]
    simp only [hlength, Nat.add_lt_add_iff_right]
    split
    · exact ih _
    · rfl

theorem afterVariable?_closed (t : Text) :
    afterVariable? (closed t) = (afterVariable? t).map closed := by
  rw [afterVariable?, afterVariable?, dropWhile_closed (by decide)]
  cases t.dropWhile isBlank with
  | nil => rfl
  | cons c name =>
    by_cases hc : c = '$'
    · subst hc
      have hname := dropWhile_closed (p := isVariable) (by decide) name
      simp only [closed, List.cons_append] at hname ⊢
      rw [hname]
      cases name.dropWhile isVariable with
      | nil => rfl
      | cons d rest =>
        simp only [List.cons_append]
        split <;> rfl
    · simp [closed, hc]

theorem dropLineEnd_closed {t : Text} (h : '\r' ∉ t) : dropLineEnd (closed t) = dropLineEnd t := by
  rw [closed, dropLineEnd, dropLineEnd, List.reverse_append]
  cases ht : t.reverse with
  | nil => rfl
  | cons c r =>
    have hc : c ≠ '\r' := by
      rintro rfl
      exact h (List.mem_reverse.mp (ht ▸ List.mem_cons_self))
    simp [hc]

theorem read?_closed {line : Text} (h : '\r' ∉ line) : read? (closed line) = read? line := by
  rw [read?, read?, dropWhile_closed (by decide), Visibility.read?_closed]
  have htext : '\r' ∉ line.dropWhile isBlank := fun hmem =>
    h ((List.dropWhile_sublist isBlank).mem hmem)
  generalize line.dropWhile isBlank = text at htext
  cases hv : Visibility.read? text with
  | none => rfl
  | some p =>
    obtain ⟨v, t⟩ := p
    obtain ⟨k, hk, -⟩ := Visibility.read?_eq_some_iff.mp hv
    simp only [Option.map_some, skipWords_closed, afterVariable?_closed]
    cases hrest : afterVariable? (skipWords 2 t) with
    | none => rfl
    | some rest =>
      have hsuffix : rest <:+ text :=
        (afterVariable?_suffix hrest).trans ((skipWords_suffix 2 t).trans ⟨k, hk.symm⟩)
      have htake : (closed text).take ((closed text).length - (closed rest).length) =
          text.take (text.length - rest.length) := by
        rw [closed, closed, List.length_append, List.length_append, Nat.add_sub_add_right,
          List.take_append_of_le_length (Nat.sub_le _ _)]
      simp only [Option.map_some, htake, dropLineEnd_closed fun hmem => htext (hsuffix.mem hmem)]

end DeclarationLine

namespace DocBlock

theorem clean_closed (line : Text) : clean (closed line) = clean line :=
  dropTrailing_append_of_pos (by simp)

theorem climb_closed (below ls : List Text) : climb below (ls.map closed) = climb below ls := by
  induction ls generalizing below with
  | nil => rfl
  | cons line ls ih =>
    rw [List.map_cons, climb, climb, trim_closed]
    simp only [ih, clean_closed]

theorem above?_closed (ls : List Text) : above? (ls.map closed) = above? ls := by
  induction ls with
  | nil => rfl
  | cons line ls ih =>
    rw [List.map_cons, above?, above?, trim_closed, ih, climb_closed, clean_closed]

end DocBlock

namespace Finding

/-- Carriage returns above a line do not matter. -/
theorem read?_map_closed (above : List Text) (line : Text) :
    read? (above.map closed) line = read? above line := by
  simp only [read?, DocBlock.above?_closed, List.length_map]

theorem readAll_closed {above ls : List Text} (h : ∀ l ∈ ls, '\r' ∉ l) :
    readAll (above.map closed) (ls.map closed) = readAll above ls := by
  induction ls generalizing above with
  | nil => rfl
  | cons l ls ih =>
    obtain ⟨hl, hls⟩ := List.forall_mem_cons.mp h
    have hread : read? (above.map closed) (closed l) = read? above l := by
      rw [read?_map_closed, read?, read?, DeclarationLine.read?_closed hl]
    rw [List.map_cons, readAll, readAll, hread, ← List.map_cons, ih hls]

theorem ofSource_withReturns {source : Text} (h : '\r' ∉ source) :
    ofSource (withReturns source) = ofSource source := by
  obtain ⟨ps, p, hps⟩ := exists_lines_eq_append source
  have hreturn : ∀ l ∈ ps, '\r' ∉ l := by
    intro l hl hmem
    obtain ⟨a, b, hab⟩ := @exists_joinWith_eq_append ['\n'] l (ps ++ [p]) (by simp [hl])
    rw [← hps, joinWith_lines] at hab
    exact h (by simp [hab, hmem])
  have hclosed : readAll [] (ps.map closed) = readAll [] ps := @readAll_closed [] ps hreturn
  rw [ofSource, ofSource, lines_withReturns hps, hps, readAll_append, readAll_append, hclosed,
    ← List.map_reverse, List.append_nil, List.append_nil, readAll, readAll, read?_map_closed]
  rfl

end Finding

namespace Method

theorem afterName?_withReturns {name : Text} (h : IsName name) (t : Text) :
    afterName? name (withReturns t) = (afterName? name t).map withReturns := by
  induction name generalizing t with
  | nil => rfl
  | cons n name ih =>
    obtain ⟨-, hname⟩ := IsName.cons_iff.mp h
    have hfold : ∀ d, isNameChar d = false → fold d = d → sameLetter n d = false := by
      intro d hd hself
      rw [sameLetter, hself, beq_eq_false_iff_ne]
      exact h.fold_ne hd List.mem_cons_self
    cases t with
    | nil => rfl
    | cons c t =>
      by_cases hc : c = '\n'
      · subst hc
        rw [withReturns_newline, afterName?, afterName?, hfold '\r' (by decide) (by decide),
          hfold '\n' (by decide) (by decide)]
        rfl
      · rw [withReturns_cons hc, afterName?, afterName?, ih hname]
        split <;> rfl

theorem dropWhile_isSpace_withReturns (t : Text) :
    (withReturns t).dropWhile isSpace = withReturns (t.dropWhile isSpace) := by
  induction t with
  | nil => rfl
  | cons c t ih =>
    by_cases hc : c = '\n'
    · subst hc
      exact ih
    · rw [withReturns_cons hc]
      by_cases hspace : isSpace c = true
      · rw [List.dropWhile_cons_of_pos hspace, List.dropWhile_cons_of_pos hspace, ih]
      · rw [List.dropWhile_cons_of_neg hspace, List.dropWhile_cons_of_neg hspace,
          withReturns_cons hc]

theorem namesParameters_withReturns {name : Text} (h : IsName name) (t : Text) :
    namesParameters name (withReturns t) = namesParameters name t := by
  rw [namesParameters, namesParameters, afterName?_withReturns h]
  cases afterName? name t with
  | none => rfl
  | some rest =>
    simp only [Option.map_some, dropWhile_isSpace_withReturns]
    cases rest.dropWhile isSpace with
    | nil => rfl
    | cons c rest =>
      by_cases hc : c = '\n'
      · subst hc
        rfl
      · rw [withReturns_cons hc]
        rfl

theorem namesMethod_cons {c : Char} (hc : c ≠ '&') (name t : Text) :
    namesMethod name (c :: t) = namesParameters name (c :: t) := by
  rw [namesMethod]
  intro u hu
  exact hc (List.cons.inj hu).1

theorem namesMethod_withReturns {name : Text} (h : IsName name) (t : Text) :
    namesMethod name (withReturns t) = namesMethod name t := by
  cases t with
  | nil => exact namesParameters_withReturns h []
  | cons c t =>
    have hcons := namesParameters_withReturns h (c :: t)
    by_cases hc : c = '\n'
    · subst hc
      rw [withReturns_newline] at hcons ⊢
      rw [namesMethod_cons (by decide), namesMethod_cons (by decide), hcons]
    · rw [withReturns_cons hc] at hcons ⊢
      by_cases hmark : c = '&'
      · subst hmark
        rw [namesMethod, namesMethod, hcons, namesParameters_withReturns h]
      · rw [namesMethod_cons hmark, namesMethod_cons hmark, hcons]

/-- Of all names only the empty one can begin with a line feed, and it does not need it. -/
theorem namesMethod_of_newline {name t : Text} (h : IsName name)
    (hnames : namesMethod name ('\n' :: t) = true) : namesMethod name t = true := by
  rw [namesMethod_cons (by decide)] at hnames
  obtain ⟨method, pad, rest, ht, hmethod, hpad⟩ := namesParameters_iff.mp hnames
  cases method with
  | cons c method =>
    obtain ⟨rfl, -⟩ := List.cons.inj ht
    have hmem : fold '\n' ∈ name.map fold := by
      rw [← hmethod]
      exact List.mem_cons_self
    obtain ⟨c, hc, hfold⟩ := List.mem_map.mp hmem
    exact absurd hfold (h.fold_ne (by decide) hc)
  | nil =>
    cases pad with
    | nil => cases ht
    | cons c pad =>
      obtain ⟨-, rfl⟩ := List.cons.inj ht
      refine namesMethod_iff.mpr ⟨[], _, rfl, .inl rfl, namesParameters_iff.mpr ?_⟩
      exact ⟨[], pad, rest, rfl, hmethod, fun d hd => hpad d (List.mem_cons_of_mem c hd)⟩

theorem spaceThenMethod_withReturns {name : Text} (h : IsName name) (t : Text) :
    spaceThenMethod name (withReturns t) = spaceThenMethod name t := by
  induction t with
  | nil => rfl
  | cons c t ih =>
    by_cases hc : c = '\n'
    · subst hc
      have hskip := @namesMethod_of_newline name (withReturns t) h
      rw [namesMethod_withReturns h] at hskip
      rw [withReturns_newline, spaceThenMethod, spaceThenMethod, spaceThenMethod,
        namesMethod_withReturns h, ih]
      have hreturn : isSpace '\r' = true := by decide
      have hnewline : isSpace '\n' = true := by decide
      rw [hreturn, hnewline, Bool.true_and, Bool.true_and, ← Bool.or_assoc]
      cases hn : namesMethod name ('\n' :: withReturns t) with
      | false => rfl
      | true => rw [hskip hn, Bool.true_or]
    · rw [withReturns_cons hc, spaceThenMethod, spaceThenMethod, namesMethod_withReturns h, ih]

theorem beginsMethod_cons_eq_false {c : Char} (hc : c.toLower ∉ functionKeyword) (name t : Text) :
    beginsMethod name (c :: t) = false := by
  rw [Bool.eq_false_iff]
  intro h
  obtain ⟨keyword, rest, ht, hk, -⟩ := beginsMethod_iff_keyword.mp h
  cases keyword with
  | nil => cases hk
  | cons d keyword =>
    obtain ⟨rfl, -⟩ := List.cons.inj ht
    exact notMem_keyword hc hk List.mem_cons_self

theorem exists_of_withReturns_eq_append {t k u : Text} (hk : '\r' ∉ k)
    (h : withReturns t = k ++ u) : ∃ v, t = k ++ v ∧ withReturns v = u := by
  induction k generalizing t with
  | nil => exact ⟨t, rfl, h⟩
  | cons c k ih =>
    obtain ⟨hc, hkeyword⟩ := List.ne_and_not_mem_of_not_mem_cons hk
    cases t with
    | nil => cases h
    | cons d t =>
      by_cases hd : d = '\n'
      · subst hd
        exact absurd (List.cons.inj h).1 hc
      · rw [withReturns_cons hd] at h
        obtain ⟨rfl, hrest⟩ := List.cons.inj h
        obtain ⟨v, rfl, hv⟩ := ih hkeyword hrest
        exact ⟨v, rfl, hv⟩

theorem beginsMethod_withReturns {name : Text} (h : IsName name) (t : Text) :
    beginsMethod name (withReturns t) = beginsMethod name t := by
  rw [Bool.eq_iff_iff, beginsMethod_iff_keyword, beginsMethod_iff_keyword]
  constructor
  · rintro ⟨keyword, rest, ht, hk, hrest⟩
    obtain ⟨v, rfl, rfl⟩ := exists_of_withReturns_eq_append (notMem_keyword (by decide) hk) ht
    exact ⟨keyword, v, rfl, hk, spaceThenMethod_withReturns h v ▸ hrest⟩
  · rintro ⟨keyword, rest, rfl, hk, hrest⟩
    refine ⟨keyword, withReturns rest, ?_, hk, (spaceThenMethod_withReturns h rest).trans hrest⟩
    rw [withReturns_append, withReturns_eq_self (notMem_keyword (by decide) hk)]

theorem declaresFrom_withReturns {name : Text} (h : IsName name) (inWord : Bool) (t : Text) :
    declaresFrom name inWord (withReturns t) = declaresFrom name inWord t := by
  induction t generalizing inWord with
  | nil => rfl
  | cons c t ih =>
    have hbegins := beginsMethod_withReturns h (c :: t)
    by_cases hc : c = '\n'
    · subst hc
      rw [withReturns_newline, declaresFrom, declaresFrom, declaresFrom, ih,
        beginsMethod_cons_eq_false (by decide), beginsMethod_cons_eq_false (by decide),
        beginsMethod_cons_eq_false (by decide)]
      simp
    · rw [withReturns_cons hc] at hbegins ⊢
      rw [declaresFrom, declaresFrom, hbegins, ih]

theorem declares_withReturns {name : Text} (h : IsName name) (source : Text) :
    declares (withReturns source) name = declares source name :=
  declaresFrom_withReturns h false source

end Method

/-- A carriage return before each line feed changes neither what a survey finds in a source, nor
the outcome of any request. -/
theorem line_endings_do_not_matter {source : Text} (h : '\r' ∉ source) :
    Survey.ofSource (withReturns source) = Survey.ofSource source ∧
      ∀ (g : Generator) (kind : Kind) (selection : Selection),
        g.generate (withReturns source) kind selection = g.generate source kind selection := by
  have hsurvey : Survey.ofSource (withReturns source) = Survey.ofSource source := by
    rw [Survey.ofSource, Survey.ofSource, Finding.ofSource_withReturns h]
  refine ⟨hsurvey, fun g kind selection => Generator.generate_congr hsurvey fun r hr => ?_⟩
  have hmember := (List.mem_filter.mp (Generator.mem_requests hr)).1
  have hname : IsName r.method := Request.isName_method (Generator.isName_of_mem_members hmember)
  exact Method.declares_withReturns hname source

/-- A class whose doc comment has several lines and whose method is named on a line of its own. -/
def brokenClass : Text :=
  "class Box \x7b\n    /**\n     * The size.\n     * @var int\n     */\n    private $size;\n\n" ++
    "    public function\n        getSize() \x7b\x7d\n\x7d\n"

theorem brokenClass_line_endings :
    '\r' ∉ brokenClass ∧
      (Survey.ofSource (withReturns brokenClass)).declarations.map Declaration.name =
        ["size".toList] ∧
      Survey.ofSource (withReturns brokenClass) = Survey.ofSource brokenClass ∧
      ∀ (g : Generator) (kind : Kind) (selection : Selection),
        g.generate (withReturns brokenClass) kind selection =
          g.generate brokenClass kind selection := by
  have hreturn : '\r' ∉ brokenClass := by decide
  exact ⟨hreturn, by decide, line_endings_do_not_matter hreturn⟩

end Accessors

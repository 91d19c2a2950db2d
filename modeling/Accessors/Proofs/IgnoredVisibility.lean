import Accessors.Proofs.BatchOutcome
import Accessors.Proofs.QuotedFacts
import Accessors.Proofs.SurveyComposition
import Mathlib.Data.List.Forall2

/-!
# Ignored visibilities do not matter

Two sources may differ in the visibilities of their declaration lines. A visibility is read where a
declaration begins, ends the search for a doc block as any other code does, and is no part of the
declaration of an accessor, wherever that stands. So a generator that treats every member as public
answers alike on both sources.
-/

namespace Accessors

open Text

/-- Equal lines, or lines that declare members and differ in the keyword of the visibility only. -/
inductive SameUpToVisibility : Text → Text → Prop
  | same (line : Text) : SameUpToVisibility line line
  | swapped (margin keyword keyword' rest : Text) (v v' : Visibility)
      (hmargin : ∀ c ∈ margin, isBlank c = true)
      (hkeyword : keyword.map Char.toLower = v.keyword)
      (hkeyword' : keyword'.map Char.toLower = v'.keyword)
      (hread : (DeclarationLine.read? (margin ++ keyword ++ rest)).isSome)
      (hread' : (DeclarationLine.read? (margin ++ keyword' ++ rest)).isSome) :
      SameUpToVisibility (margin ++ keyword ++ rest) (margin ++ keyword' ++ rest)

namespace DeclarationLine

variable {v : Visibility} {margin k : Text}

/-- What follows the keyword of a declaration line begins with a blank or with the dollar sign. -/
theorem exists_cons_of_read? (hmargin : ∀ c ∈ margin, isBlank c = true)
    (hk : k.map Char.toLower = v.keyword) {rest : Text}
    (h : (read? (margin ++ k ++ rest)).isSome) :
    ∃ c t, rest = c :: t ∧ (isBlank c = true ∨ c = '$') := by
  rw [read?_of_keyword hmargin hk, Option.isSome_map] at h
  obtain ⟨tail, htail⟩ := Option.isSome_iff_exists.mp h
  obtain ⟨name, -, hname, -, -⟩ := afterVariable?_eq_some_iff.mp htail
  cases rest with
  | nil =>
    rw [skipWords_nil] at hname
    cases hname
  | cons c t =>
    refine ⟨c, t, rfl, ?_⟩
    by_cases hc : isBlank c = true
    · exact .inl hc
    · have hstop : (c :: t).dropWhile isBlank = c :: t := List.dropWhile_cons_of_neg hc
      have hskip : skipWords 2 (c :: t) = c :: t := by
        rw [skipWords, hstop, if_neg fun hlt => Nat.lt_irrefl _ hlt.1]
      rw [hskip, hstop] at hname
      exact .inr (List.cons.inj hname).1

theorem name?_cons {c : Char} (hc : c ≠ '$') (t : Text) : name? (c :: t) = name? t := by
  rw [name?]
  intro d rest h
  exact absurd h hc

theorem name?_append (h : '$' ∉ k) (t : Text) : name? (k ++ t) = name? t := by
  induction k with
  | nil => rfl
  | cons c k ih =>
    obtain ⟨hc, hk⟩ := List.ne_and_not_mem_of_not_mem_cons h
    rw [List.cons_append, name?_cons (Ne.symm hc), ih hk]

end DeclarationLine

theorem Text.head?_dropTrailing {p : Char → Bool} {c : Char} (hc : p c = false) (t : Text) :
    (dropTrailing p (c :: t)).head? = some c := by
  obtain ⟨w, ht, hw, -⟩ := exists_dropTrailing_append p (c :: t)
  cases hd : dropTrailing p (c :: t) with
  | nil =>
    rw [hd, List.nil_append] at ht
    have hpos := hw c (ht ▸ List.mem_cons_self)
    rw [hc] at hpos
    cases hpos
  | cons d u =>
    rw [hd] at ht
    rw [(List.cons.inj ht).1]
    rfl

namespace DocBlock

/-- A visibility ends the search for a doc block. -/
theorem stops_of_keyword {v : Visibility} {margin k : Text}
    (hmargin : ∀ c ∈ margin, isBlank c = true) (hk : k.map Char.toLower = v.keyword)
    (rest : Text) (ls : List Text) : Stops ((margin ++ k ++ rest) :: ls) := by
  obtain ⟨c, t, rfl, hc⟩ := Visibility.exists_cons_of_keyword hk
  have hspace : isSpace c = false := by
    rcases hc with rfl | rfl <;> decide
  have htrim : (trim (margin ++ (c :: t) ++ rest)).head? = some c := by
    rw [trim, trimBy, List.append_assoc,
      List.dropWhile_append_of_pos fun d hd => isSpace_of_isBlank (hmargin d hd),
      List.cons_append, List.dropWhile_cons_of_neg (by simp [hspace])]
    exact head?_dropTrailing hspace (t ++ rest)
  obtain ⟨u, hu⟩ := List.head?_eq_some_iff.mp htrim
  intro l hl
  rw [List.find?_cons_of_pos (by simp only [hu]; rfl), Option.mem_some_iff] at hl
  rw [← hl, isPart, hu]
  rcases hc with rfl | rfl <;> rfl

variable {ls ls' : List Text}

theorem climb_congr (h : List.Forall₂ SameUpToVisibility ls ls') (below : List Text) :
    climb below ls' = climb below ls := by
  induction h generalizing below with
  | nil => rfl
  | cons hline _ ih =>
    cases hline with
    | same line =>
      rw [climb, climb]
      simp only [ih]
    | swapped margin k k' rest v v' hmargin hk hk' =>
      rw [climb_eq_none_of_stops (stops_of_keyword hmargin hk rest _),
        climb_eq_none_of_stops (stops_of_keyword hmargin hk' rest _)]

theorem above?_congr (h : List.Forall₂ SameUpToVisibility ls ls') : above? ls' = above? ls := by
  induction h with
  | nil => rfl
  | cons hline hls ih =>
    cases hline with
    | same line => rw [above?, above?, ih, climb_congr hls]
    | swapped margin k k' rest v v' hmargin hk hk' =>
      rw [above?_eq_none_of_stops (stops_of_keyword hmargin hk rest _),
        above?_eq_none_of_stops (stops_of_keyword hmargin hk' rest _)]

end DocBlock

/-- A declaration as one sees it who ignores visibilities: the keyword is forgotten, and so is the
text that it begins. -/
def Declaration.unmodified (d : Declaration) : Declaration :=
  { d with visibility := .isPublic, text := [] }

theorem Member.ofDeclaration_unmodified {options : Options} (h : options.ignoreVisibility = true)
    (t : Template) (d : Declaration) :
    ofDeclaration t options d.unmodified = ofDeclaration t options d := by
  rw [ofDeclaration, ofDeclaration, h]
  rfl

namespace Finding

def unmodified? (f : Finding) : Option Declaration :=
  f.declaration?.map Declaration.unmodified

/-- Without regard to visibilities, a declaration line says what follows its keyword. -/
theorem read?_bind_unmodified? {v : Visibility} {margin k : Text}
    (hmargin : ∀ c ∈ margin, isBlank c = true) (hk : k.map Char.toLower = v.keyword)
    (above : List Text) (rest : Text) :
    (read? above (margin ++ k ++ rest)).bind unmodified? =
      (DeclarationLine.afterVariable? (DeclarationLine.skipWords 2 rest)).bind fun tail =>
        (DeclarationLine.name? (rest.take (rest.length - tail.length) ++
          DeclarationLine.dropLineEnd tail)).map fun name =>
            { name
              visibility := .isPublic
              doc := (DocBlock.above? above).map DocComment.parse
              line := above.length + 1
              text := [] } := by
  rw [read?, DeclarationLine.read?_of_keyword hmargin hk]
  cases DeclarationLine.afterVariable? (DeclarationLine.skipWords 2 rest) with
  | none => rfl
  | some tail =>
    simp only [Option.map_some, Option.bind_some,
      DeclarationLine.name?_append (Visibility.dollar_notMem hk)]
    cases DeclarationLine.name? (rest.take (rest.length - tail.length) ++
      DeclarationLine.dropLineEnd tail) <;> rfl

theorem read?_congr {above above' : List Text} {line line' : Text}
    (hline : SameUpToVisibility line line')
    (habove : List.Forall₂ SameUpToVisibility above above') :
    (read? above' line').bind unmodified? = (read? above line).bind unmodified? := by
  have hdoc := DocBlock.above?_congr habove
  have hlength := habove.length_eq
  cases hline with
  | same => rw [read?, read?, hdoc, hlength]
  | swapped margin k k' rest v v' hmargin hk hk' =>
    rw [read?_bind_unmodified? hmargin hk, read?_bind_unmodified? hmargin hk', hdoc, hlength]

/-- Line by line, both sources declare the same members. -/
theorem readAll_congr {above above' ls ls' : List Text}
    (hls : List.Forall₂ SameUpToVisibility ls ls')
    (habove : List.Forall₂ SameUpToVisibility above above') :
    (readAll above' ls').filterMap unmodified? = (readAll above ls).filterMap unmodified? := by
  have hfirst : ∀ o : Option Finding,
      o.toList.filterMap unmodified? = (o.bind unmodified?).toList := by
    intro o
    cases o with
    | none => rfl
    | some f => cases hf : unmodified? f <;> simp [hf]
  induction hls generalizing above above' with
  | nil => rfl
  | cons hline _ ih =>
    rw [readAll, readAll, List.filterMap_append, List.filterMap_append, hfirst, hfirst,
      read?_congr hline habove, ih (.cons hline habove)]

end Finding

theorem Generator.members_congr {g : Generator} (h : g.options.ignoreVisibility = true)
    {source source' : Text}
    (hlines : List.Forall₂ SameUpToVisibility (lines source) (lines source')) :
    g.members source' = g.members source := by
  have hseen : ∀ t, g.members t = ((Finding.ofSource t).filterMap Finding.unmodified?).map
      (Member.ofDeclaration g.template g.options) := by
    intro t
    have hmap : Finding.unmodified? = fun f => f.declaration?.map Declaration.unmodified := rfl
    rw [hmap, ← List.map_filterMap, List.map_map, members, Survey.ofSource, Survey.ofFindings]
    congr 1
    funext d
    exact (Member.ofDeclaration_unmodified h g.template d).symm
  rw [hseen, hseen, Finding.ofSource, Finding.ofSource, Finding.readAll_congr hlines .nil]

namespace Method

variable {name x y z k : Text}

/-- The letter that visibilities begin with stands in the name of a declared method, if it stands in
the declaration at all. -/
theorem Spelling.exists_name_split {c : Char} {d u w : Text} (hd : Spelling name d)
    (hc : c = 'p' ∨ c = 'P') (hsplit : d = u ++ c :: w) :
    ∃ a m n, u = a ++ m ∧ (m ++ c :: n).map fold = name.map fold := by
  obtain ⟨keyword, gap, mark, method, pad, hkeyword, -, hgap, hmark, hmethod, hpad⟩ := hd
  have hspaces : ∀ {t : Text}, (∀ e ∈ t, isSpace e) → c ∉ t := by
    intro t ht hmem
    have hspace := ht c hmem
    rcases hc with rfl | rfl <;> exact absurd hspace (by decide)
  have hbefore : c ∉ keyword ++ gap ++ mark := by
    have hletter : c ∉ keyword := by
      rcases hc with rfl | rfl <;> exact Method.notMem_keyword (by decide) hkeyword
    have hampersand : c ∉ mark := by
      rcases hmark with rfl | rfl <;> rcases hc with rfl | rfl <;> decide
    simp [hletter, hspaces hgap, hampersand]
  have hafter : c ∉ pad ++ ['('] := by
    have hopen : c ≠ '(' := by
      rcases hc with rfl | rfl <;> decide
    simp [hspaces hpad, hopen]
  have hparts : u ++ c :: w = keyword ++ gap ++ mark ++ method ++ (pad ++ ['(']) := by
    rw [← hsplit]
    simp
  by_contra hnone
  have hbeside : ∀ m n, method = m ++ c :: n → u ≠ keyword ++ gap ++ mark ++ m := by
    intro m n hm hu
    exact hnone ⟨_, m, n, hu, hm ▸ hmethod⟩
  rcases part_beside_of_split hbeside hparts with ⟨b, -, hb⟩ | ⟨b, hb, -⟩
  · exact hafter (hb ▸ List.mem_append_right b List.mem_cons_self)
  · exact hbefore (hb ▸ List.mem_append_right u List.mem_cons_self)

/-- A visibility that follows white space is no part of the declaration of a method whose name does
not begin with the same letter. -/
theorem Spelling.ne_append {c : Char} {d p u w : Text} (hname : IsName name)
    (hhead : (name.map fold).head? ≠ some 'p') (hc : c = 'p' ∨ c = 'P') (hd : Spelling name d)
    (hx : ∀ e ∈ x.getLast?, isNameChar (fold e) = false) (hsplit : d = u ++ c :: w) :
    x ≠ p ++ u := by
  obtain ⟨a, m, n, rfl, hmethod⟩ := hd.exists_name_split hc hsplit
  rintro rfl
  rcases List.eq_nil_or_concat m with rfl | ⟨m, e, rfl⟩
  · have hfold : fold c = 'p' := by
      rcases hc with rfl | rfl <;> decide
    rw [← hmethod, List.nil_append, List.map_cons, hfold] at hhead
    exact hhead rfl
  · -- Within the name, a character of the name would stand before the visibility.
    have hlast : isNameChar (fold e) = false := hx e (by simp)
    have hmem : fold e ∈ name.map fold := by
      rw [← hmethod]
      exact List.mem_map_of_mem (by simp)
    obtain ⟨l, hl, hle⟩ := List.mem_map.mp hmem
    exact hname.fold_ne hlast hl hle

/-- Around the visibility of a member, a method is declared before it or behind it. -/
theorem declares_keyword_iff {v : Visibility} (hname : IsName name)
    (hhead : (name.map fold).head? ≠ some 'p') (hk : k.map Char.toLower = v.keyword)
    (hx : ∀ e ∈ x.getLast?, isNameChar (fold e) = false) (hy : ∀ e ∈ y.head?, e.toLower ≠ 'f') :
    declares (x ++ k ++ y) name = true ↔ declares x name = true ∨ declares y name = true := by
  constructor
  · intro h
    obtain ⟨c, t, rfl, hc⟩ := Visibility.exists_cons_of_keyword hk
    have htail : t.all (·.toLower != 'f') = true := by
      rw [List.all_eq_true]
      intro e he
      rw [bne_iff_ne]
      intro hf
      have hmem : e.toLower ∈ v.keyword := hk ▸ List.mem_map_of_mem (List.mem_cons_of_mem c he)
      rw [hf] at hmem
      revert hmem
      cases v <;> decide
    obtain ⟨p, d, rest, hs, hd, hp⟩ := declares_iff.mp h
    have hparts : x ++ c :: (t ++ y) = p ++ d ++ rest := by simpa using hs
    rcases part_beside_of_split (fun u w hw => hd.ne_append hname hhead hc hx hw) hparts with
      ⟨r, rfl, -⟩ | ⟨q, rfl, hq⟩
    · exact .inl (declares_iff.mpr ⟨p, d, r, rfl, hd, hp⟩)
    · have hq' : EndsWord ((x ++ [c]) ++ q) := by simpa using hp
      have hbehind : declares (t ++ y) name = true :=
        declares_iff.mpr ⟨q, d, rest, hq, hd, hq'.of_append⟩
      exact .inr (declares_of_append_left htail hbehind)
  · rintro (h | h)
    · exact StandsIn.declares ⟨[], k ++ y, by simp, endsWord_nil⟩ h
    · obtain ⟨p, d, rest, rfl, hd, hp⟩ := declares_iff.mp h
      have hne : p ≠ [] := by
        rintro rfl
        obtain ⟨e, t, rfl, he⟩ := hd.exists_eq_cons
        exact hy e rfl he
      exact declares_iff.mpr ⟨x ++ k ++ p, d, rest, by simp, hd, (endsWord_append hne).mpr hp⟩

theorem declares_line_congr (hname : IsName name) (hhead : (name.map fold).head? ≠ some 'p')
    {line line' : Text} (hline : SameUpToVisibility line line') (hx : ∀ e ∈ x.getLast?, e = '\n') :
    declares (x ++ line' ++ z) name = declares (x ++ line ++ z) name := by
  cases hline with
  | same => rfl
  | swapped margin k k' rest v v' hmargin hk hk' hread =>
    have hbefore : ∀ e ∈ (x ++ margin).getLast?, isNameChar (fold e) = false := by
      intro e he
      rw [List.getLast?_append, Option.mem_def, Option.or_eq_some_iff] at he
      have hend : isBlank e = true ∨ e = '\n' := by
        rcases he with he | ⟨-, he⟩
        · exact .inl (hmargin e (List.mem_of_getLast? he))
        · exact .inr (hx e he)
      simp only [isBlank, Bool.or_eq_true, beq_iff_eq] at hend
      rcases hend with (rfl | rfl) | rfl <;> decide
    obtain ⟨c, t, rfl, hc⟩ := DeclarationLine.exists_cons_of_read? hmargin hk hread
    have hbehind : ∀ e ∈ (c :: t ++ z).head?, e.toLower ≠ 'f' := by
      intro e he
      obtain rfl : c = e := Option.some.inj he
      simp only [isBlank, Bool.or_eq_true, beq_iff_eq] at hc
      rcases hc with (rfl | rfl) | rfl <;> decide
    have hiff := declares_keyword_iff hname hhead hk hbefore hbehind
    have hiff' := declares_keyword_iff hname hhead hk' hbefore hbehind
    rw [Bool.eq_iff_iff]
    simp only [List.append_assoc] at hiff hiff' ⊢
    rw [hiff, hiff']

/-- Line by line, the visibilities of a source are swapped, and no declaration comes or goes. -/
theorem declares_joinWith_congr (hname : IsName name) (hhead : (name.map fold).head? ≠ some 'p')
    {ls ls' : List Text} (h : List.Forall₂ SameUpToVisibility ls ls')
    (hx : ∀ e ∈ x.getLast?, e = '\n') :
    declares (x ++ joinWith ['\n'] ls') name = declares (x ++ joinWith ['\n'] ls) name := by
  induction h generalizing x with
  | nil => rfl
  | @cons line line' ls ls' hline hls ih =>
    cases hls with
    | nil =>
      have hlast := declares_line_congr (z := []) hname hhead hline hx
      simpa [joinWith] using hlast
    | @cons next next' ls ls' hnext hls =>
      have hfirst := declares_line_congr (z := '\n' :: joinWith ['\n'] (next :: ls)) hname hhead
        hline hx
      have hrest := ih (x := x ++ line' ++ ['\n']) (by simp)
      simp only [joinWith, List.intercalate_cons_cons, List.append_assoc, List.cons_append,
        List.nil_append] at hfirst hrest ⊢
      rw [hrest, hfirst]

theorem declares_congr_of_lines (hname : IsName name) (hhead : (name.map fold).head? ≠ some 'p')
    {source source' : Text}
    (h : List.Forall₂ SameUpToVisibility (lines source) (lines source')) :
    declares source' name = declares source name := by
  have hjoin := declares_joinWith_congr (x := []) hname hhead h (by simp)
  rwa [joinWith_lines, joinWith_lines] at hjoin

end Method

theorem Request.head?_method_ne (r : Request) : (r.method.map fold).head? ≠ some 'p' := by
  unfold method
  split
  · rcases r.member.head?_getterName with h | h <;> rw [h] <;> decide
  · rcases r.member.head?_setterName with h | h <;> rw [h] <;> decide

/-- A result without the skipped lines, which quote the source. -/
def Generated.withoutSkipped (out : Generated) : Generated :=
  { out with skipped := [] }

/-- With visibilities ignored, the visibilities that declaration lines give do not matter: two
sources that differ in them alone get the same code, the same methods written and found, and the
same number of members selected, or the same error. -/
theorem ignored_visibilities_do_not_matter {g : Generator}
    (hignore : g.options.ignoreVisibility = true) {source source' : Text}
    (hlines : List.Forall₂ SameUpToVisibility (lines source) (lines source')) (kind : Kind)
    (selection : Selection) :
    (g.generate source' kind selection).map Generated.withoutSkipped =
      (g.generate source kind selection).map Generated.withoutSkipped := by
  have hmembers := Generator.members_congr hignore hlines
  have hdeclares : ∀ r ∈ g.requests source kind selection,
      Method.declares source' r.method = Method.declares source r.method := by
    intro r hr
    have hmember := (List.mem_filter.mp (Generator.mem_requests hr)).1
    have hname : IsName r.method := Request.isName_method (Generator.isName_of_mem_members hmember)
    exact Method.declares_congr_of_lines hname r.head?_method_ne hlines
  rw [Generator.generate, Generator.generate, Generator.batch_congr hmembers hdeclares,
    Generator.selected_congr hmembers]
  cases hbatch : g.batch source kind (g.selected source selection) with
  | mk b error? => cases error? <;> rfl

/-- The lines of a class with two members of these visibilities. The second stands below the word
that begins a declaration, and before the declaration of a setter of the first. -/
def guardedLines (first second : Text) : List Text :=
  ["class Box \x7b".toList, "    /** @var bool */".toList, "    " ++ first ++ " $open;".toList,
    "    // function".toList, "\t" ++ second ++ " static $size = 1; // function setOpen(".toList,
    "\x7d".toList]

def guardedClass (first second : Text) : Text :=
  joinWith ['\n'] (guardedLines first second)

def publicGenerator : Generator :=
  Standard.camelCase.generator false { ignoreVisibility := true }

theorem guardedClass_visibilities_do_not_matter :
    publicGenerator.options.ignoreVisibility = true ∧
      List.Forall₂ SameUpToVisibility (lines (guardedClass "PRIVATE" "private"))
        (lines (guardedClass "public" "Protected")) ∧
      (publicGenerator.generate (guardedClass "public" "Protected") .both .all).map
          Generated.withoutSkipped =
        (publicGenerator.generate (guardedClass "PRIVATE" "private") .both .all).map
          Generated.withoutSkipped := by
  have hlines : lines (guardedClass "PRIVATE" "private") = guardedLines "PRIVATE" "private" := by
    decide
  have hlines' : lines (guardedClass "public" "Protected") = guardedLines "public" "Protected" := by
    decide
  have hsame : List.Forall₂ SameUpToVisibility (lines (guardedClass "PRIVATE" "private"))
      (lines (guardedClass "public" "Protected")) := by
    rw [hlines, hlines']
    have hopen : SameUpToVisibility ("    ".toList ++ "PRIVATE".toList ++ " $open;".toList)
        ("    ".toList ++ "public".toList ++ " $open;".toList) :=
      .swapped _ _ _ _ .isPrivate .isPublic (List.all_eq_true.mp rfl) (by decide) (by decide)
        (by decide) (by decide)
    have hsize : SameUpToVisibility
        ("\t".toList ++ "private".toList ++ " static $size = 1; // function setOpen(".toList)
        ("\t".toList ++ "Protected".toList ++ " static $size = 1; // function setOpen(".toList) :=
      .swapped _ _ _ _ .isPrivate .isProtected (List.all_eq_true.mp rfl) (by decide) (by decide)
        (by decide) (by decide)
    exact .cons (.same _) (.cons (.same _) (.cons hopen (.cons (.same _) (.cons hsize
      (.cons (.same _) .nil)))))
  exact ⟨rfl, hsame, ignored_visibilities_do_not_matter rfl hsame .both .all⟩

end Accessors

import Accessors.Proofs.StrayLines

/-!
# Code comes apart into its methods

The lines that end the comment of a method and the method itself stand there once, whatever fills
the holes: the lines of a description have lost their frame, and no other row begins like these two.
So the code of several methods can be read in one way only, and each tells the name of its method.
-/

namespace Accessors

open Text

/-- What stands before the first `x` is settled, and so is what follows it. -/
theorem append_cons_inj_of_notMem {α : Type} {x : α} {a b u v : List α} (ha : x ∉ a) (hb : x ∉ b)
    (h : a ++ x :: u = b ++ x :: v) : a = b ∧ u = v := by
  induction a generalizing b with
  | nil =>
    cases b with
    | nil => exact ⟨rfl, (List.cons.inj h).2⟩
    | cons y b =>
      obtain ⟨rfl, -⟩ := List.cons.inj h
      exact absurd List.mem_cons_self hb
  | cons y a ih =>
    obtain ⟨hy, ha⟩ := List.ne_and_not_mem_of_not_mem_cons ha
    cases b with
    | nil => exact absurd (List.cons.inj h).1.symm hy
    | cons z b =>
      obtain ⟨rfl, hrest⟩ := List.cons.inj h
      obtain ⟨rfl, rfl⟩ := ih ha (List.not_mem_of_not_mem_cons hb) hrest
      exact ⟨rfl, rfl⟩

/-- The stray lines of a description begin with no mark of the frame. -/
theorem Generator.isFrame_head?_of_mem_strayLines {g : Generator} {source : Text} {m : Member}
    (h : m ∈ g.members source) {l : Text} (hl : l ∈ m.strayLines) {c : Char} (hc : c ∈ l.head?) :
    DocLine.isFrame c = false := by
  have hname : '\n' ∉ m.name := (isName_of_mem_members h).notMem (by decide)
  obtain ⟨above, line, d, hread, -, rfl⟩ := exists_read?_of_mem_members h
  rcases Member.descriptionOf_cases d.name d.doc with hdefault | ⟨comment, hdoc, hne, hdescription⟩
  · have hdescription : (Member.ofDeclaration g.template g.options d).description =
        "value of ".toList ++ d.name := hdefault
    have hnewline : '\n' ∉ "value of ".toList ++ d.name := by
      rw [List.mem_append, not_or]
      exact ⟨by decide, hname⟩
    rw [Member.strayLines, hdescription, lines_eq_singleton hnewline] at hl
    cases hl
  · rw [Finding.doc_of_read? hread] at hdoc
    obtain ⟨t, -, rfl⟩ := Option.map_eq_some_iff.mp hdoc
    have hquoted : (Member.ofDeclaration g.template g.options d).description =
        (DocComment.parse t).description := hdescription
    rw [Member.strayLines, hquoted, DocComment.lines_description hne] at hl
    obtain ⟨line, -, rfl⟩ := DocComment.exists_strip_of_mem_prose (List.mem_of_mem_tail hl)
    exact DocLine.isFrame_head?_strip hc

theorem Body.prefix_of_prefix_closeGaps {mark t : Text} (hmark : '(' ∉ mark)
    (h : mark <+: closeGaps t) : mark <+: t := by
  induction mark generalizing t with
  | nil => exact List.nil_prefix
  | cons c mark ih =>
    obtain ⟨hc, hmark⟩ := List.ne_and_not_mem_of_not_mem_cons hmark
    cases t with
    | nil => exact h
    | cons d t =>
      by_cases hd : d = '('
      · obtain ⟨t', ht'⟩ := exists_closeGaps_parenthesis t
        rw [hd, ht', List.cons_prefix_cons] at h
        exact absurd h.1.symm hc
      · rw [closeGaps_cons (.inl hd), List.cons_prefix_cons] at h
        exact List.cons_prefix_cons.mpr ⟨h.1, ih hmark h.2⟩

theorem Accessor.prefix_of_prefix_finish {a : Accessor} {mark t : Text} (hmark : '(' ∉ mark)
    (h : mark <+: a.finish t) : mark <+: t := by
  cases a with
  | getter => exact h
  | setter => exact Body.prefix_of_prefix_closeGaps hmark h

theorem Accessor.finish_eq_self {a : Accessor} {t : Text} (h : '(' ∉ t) : a.finish t = t := by
  cases a with
  | getter => rfl
  | setter =>
    have hclosed := Body.closeGaps_append_of_notMem h []
    rwa [List.append_nil, show Body.closeGaps [] = [] from rfl, List.append_nil] at hclosed

namespace Standard

def commentEnd (tabs : Bool) : Text :=
  margin tabs ++ " */"

def methodEnd (tabs : Bool) : Text :=
  margin tabs ++ ['\x7d']

/-- A row that does not begin with this mark, whatever fills its holes. -/
def avoids : Text → List Piece → Bool
  | c :: mark, .char d :: row => c != d || avoids mark row
  | _ :: _, [] => true
  | _, _ => false

theorem not_prefix_filledRow {mark : Text} {row : List Piece} (h : avoids mark row = true)
    (m : Member) : ¬mark <+: m.filledRow row := by
  fun_induction avoids mark row with
  | case1 c mark d row ih =>
    change ¬c :: mark <+: d :: m.filledRow row
    rw [List.cons_prefix_cons]
    rintro ⟨rfl, hmark⟩
    exact ih (by simpa using h) hmark
  | case2 c mark =>
    intro hprefix
    cases List.prefix_nil.mp hprefix
  | case3 => cases h

/-- The rows of a method in its parts, without the marks that end the comment and the method. -/
structure Layout where
  comment : List (List Piece)
  signature : List Piece
  statements : List (List Piece)

namespace Layout

def rows (tabs : Bool) (l : Layout) : List (List Piece) :=
  l.comment ++ Piece.plain (commentEnd tabs) :: l.signature ::
    (l.statements ++ [Piece.plain (methodEnd tabs), []])

def ofRows (tabs : Bool) (rows : List (List Piece)) : Layout :=
  let comment := rows.takeWhile (· != Piece.plain (commentEnd tabs))
  let rest := rows.drop (comment.length + 1)
  ⟨comment, rest.headD [], rest.tail.takeWhile (· != Piece.plain (methodEnd tabs))⟩

/-- The parts of these rows: the mark of the comment stands at its end only, and that of the method
at the end of all. -/
def fits (s : Standard) (tabs : Bool) (a : Accessor) (rows : List (List Piece)) (l : Layout) :
    Bool :=
  l.rows tabs == rows &&
    l.comment.all (fun row => avoids (commentEnd tabs) row && avoids (methodEnd tabs) row) &&
      (s.signature tabs a).isPrefixOf l.signature && l.signature != openingRow tabs a &&
        l.statements.all (avoids (methodEnd tabs))

end Layout

theorem fits_ofRows (s : Standard) (tabs : Bool) (a : Accessor) :
    (Layout.ofRows tabs (Body.rows ((s.template.indented tabs).body a))).fits s tabs a
      (Body.rows ((s.template.indented tabs).body a)) = true := by
  cases s <;> cases tabs <;> cases a <;> decide

def IsMark (tabs : Bool) (mark : Text) : Prop :=
  mark = commentEnd tabs ∨ mark = methodEnd tabs

namespace IsMark

variable {tabs : Bool} {mark : Text}

theorem parenthesis_notMem (h : IsMark tabs mark) : '(' ∉ mark := by
  rcases h with rfl | rfl <;> cases tabs <;> decide

theorem exists_cons (h : IsMark tabs mark) :
    ∃ c rest, mark = c :: rest ∧ DocLine.isFrame c = true := by
  rcases h with rfl | rfl <;> cases tabs <;> exact ⟨_, _, rfl, rfl⟩

theorem not_prefix_openingText (h : IsMark tabs mark) (a : Accessor) (t : Text) :
    ¬mark <+: openingText tabs a ++ t := by
  rintro ⟨u, hu⟩
  rcases h with rfl | rfl <;> cases tabs <;> cases a <;> cases hu

theorem prefix_append_period_iff (h : IsMark tabs mark) (l : Text) :
    mark <+: l ++ ['.'] ↔ mark <+: l := by
  rw [List.prefix_concat_iff, or_iff_right]
  intro hperiod
  have hlast := congrArg List.getLast? hperiod
  rw [List.getLast?_concat] at hlast
  rcases h with rfl | rfl <;> cases tabs <;> cases hlast

end IsMark

end Standard

namespace Request

variable {s : Standard} {tabs : Bool} {options : Options} {source : Text} {r q : Request}

theorem newline_notMem_line_of_ne (hr : r.member ∈ (s.generator tabs options).members source)
    {row : List Piece} (hrow : row ∈ Body.rows ((s.template.indented tabs).body r.accessor))
    (hne : row ≠ Standard.openingRow tabs r.accessor) : '\n' ∉ r.line row := by
  have hquotes := s.quotesInOpening_rows tabs r.accessor
  simp only [Standard.quotesInOpening, Bool.and_eq_true, List.all_eq_true, Bool.or_eq_true,
    beq_iff_eq, bne_iff_ne] at hquotes
  apply Accessor.newline_notMem_finish
  exact Member.newline_notMem_filledRow (Generator.oneLine_of_mem_members hr)
    (notMem_of_mem_splitOn hrow) (.inr ((hquotes.2 row hrow).resolve_left hne))

theorem not_prefix_of_mem_lines (hr : r.member ∈ (s.generator tabs options).members source)
    {mark : Text} (hmark : Standard.IsMark tabs mark) {row : List Piece}
    (hrow : row ∈ Body.rows ((s.template.indented tabs).body r.accessor))
    (havoids : Standard.avoids mark row = true) {l : Text} (hl : l ∈ lines (r.line row)) :
    ¬mark <+: l := by
  by_cases hopening : row = Standard.openingRow tabs r.accessor
  · subst hopening
    refine (@forall_mem_lines_openingRow_iff r tabs (¬mark <+: ·) ?_ ?_).mpr ?_ l hl
    · intro t ht
      apply hmark.not_prefix_openingText r.accessor t
      exact Accessor.prefix_of_prefix_finish hmark.parenthesis_notMem ht
    · exact fun l => not_congr (hmark.prefix_append_period_iff l)
    · -- A stray line begins with no blank, and the mark does.
      intro l hl hfinish
      obtain ⟨c, rest, hc, hframe⟩ := hmark.exists_cons
      obtain ⟨t, rfl⟩ := Accessor.prefix_of_prefix_finish hmark.parenthesis_notMem hfinish
      have hhead : c ∈ (mark ++ t).head? := by
        rw [hc]
        exact rfl
      rw [Generator.isFrame_head?_of_mem_strayLines hr hl hhead] at hframe
      cases hframe
  · rw [lines_eq_singleton (newline_notMem_line_of_ne hr hrow hopening), List.mem_singleton] at hl
    rw [hl]
    intro hprefix
    apply Standard.not_prefix_filledRow havoids r.member
    exact Accessor.prefix_of_prefix_finish hmark.parenthesis_notMem hprefix

theorem lines_line_mark (r : Request) {mark : Text} (hmark : Standard.IsMark tabs mark) :
    lines (r.line (Piece.plain mark)) = [mark] := by
  have hnewline : '\n' ∉ mark := by
    rcases hmark with rfl | rfl <;> cases tabs <;> decide
  rw [line, Member.filledRow_plain, Accessor.finish_eq_self hmark.parenthesis_notMem,
    lines_eq_singleton hnewline]

/-- The lines of a method in its parts: those before the end of the comment, the signature, and
those up to the end of the method. -/
structure Parted (tabs : Bool) (r : Request) (code : Text) (comment : List Text) (signature : Text)
    (statements : List Text) : Prop where
  lines_eq : lines code = (comment ++ Standard.commentEnd tabs :: signature :: statements) ++
    [Standard.methodEnd tabs, []]
  comment_clear : Standard.commentEnd tabs ∉ comment
  method_clear : Standard.methodEnd tabs ∉
    comment ++ Standard.commentEnd tabs :: signature :: statements
  isSignature : r.IsSignature tabs signature

theorem IsSignature.ne_methodEnd {l : Text} (h : r.IsSignature tabs l) :
    l ≠ Standard.methodEnd tabs := by
  obtain ⟨v, rest, rfl⟩ := h
  rw [Standard.methodEnd]
  simp only [List.append_assoc, ne_eq, List.append_cancel_left_eq]
  cases v <;> rintro ⟨⟩

theorem exists_parted (hr : r.member ∈ (s.generator tabs options).members source) :
    ∃ comment signature statements,
      r.Parted tabs (r.text (s.template.indented tabs)) comment signature statements := by
  have hfits := s.fits_ofRows tabs r.accessor
  generalize Standard.Layout.ofRows tabs
    (Body.rows ((s.template.indented tabs).body r.accessor)) = layout at hfits
  obtain ⟨comment, signature, statements⟩ := layout
  simp only [Standard.Layout.fits, Standard.Layout.rows, Bool.and_eq_true, List.all_eq_true,
    beq_iff_eq, bne_iff_ne] at hfits
  obtain ⟨⟨⟨⟨hrows, hcomment⟩, hsignature⟩, hopening⟩, hstatements⟩ := hfits
  have hsigned : '\n' ∉ r.line signature :=
    newline_notMem_line_of_ne hr (by simp [← hrows]) hopening
  have hsignature := (Generator.fits_of_mem_members hr).isSignature_line
    (List.isPrefixOf_iff_prefix.mp hsignature)
  refine ⟨comment.flatMap fun row => lines (r.line row), r.line signature,
    statements.flatMap fun row => lines (r.line row), ?_, ?_, ?_, hsignature⟩
  · have hnil : lines (r.line []) = [[]] := by
      rw [r.line_nil]
      rfl
    rw [text_eq_joinWith, lines_joinWith_eq_flatMap (by simp [← hrows]), ← hrows]
    simp [List.flatMap_map, r.lines_line_mark (.inl rfl), r.lines_line_mark (.inr rfl),
      lines_eq_singleton hsigned, hnil]
  · intro hmem
    obtain ⟨row, hrow, hl⟩ := List.mem_flatMap.mp hmem
    exact not_prefix_of_mem_lines hr (.inl rfl) (by simp [← hrows, hrow]) (hcomment row hrow).1 hl
      (List.prefix_refl _)
  · intro hmem
    rw [List.mem_append, List.mem_cons, List.mem_cons] at hmem
    rcases hmem with hmem | hmem | hmem | hmem
    · obtain ⟨row, hrow, hl⟩ := List.mem_flatMap.mp hmem
      exact not_prefix_of_mem_lines hr (.inr rfl) (by simp [← hrows, hrow]) (hcomment row hrow).2
        hl (List.prefix_refl _)
    · cases tabs <;> cases hmem
    · exact hsignature.ne_methodEnd hmem.symm
    · obtain ⟨row, hrow, hl⟩ := List.mem_flatMap.mp hmem
      exact not_prefix_of_mem_lines hr (.inr rfl) (by simp [← hrows, hrow]) (hstatements row hrow)
        hl (List.prefix_refl _)

theorem Parted.lines_append {code signature : Text} {comment statements : List Text}
    (h : r.Parted tabs code comment signature statements) (a : Text) :
    lines (code ++ a) = (comment ++ Standard.commentEnd tabs :: signature :: statements) ++
      Standard.methodEnd tabs :: lines a := by
  have hlast : (lines code).getLast? = some [] := by
    rw [h.lines_eq, List.getLast?_append]
    rfl
  rw [lines_append_of_last hlast, h.lines_eq, List.dropLast_append_of_ne_nil (List.cons_ne_nil _ _),
    List.append_assoc]
  rfl

theorem Parted.ne_nil {code signature : Text} {comment statements : List Text}
    (h : r.Parted tabs code comment signature statements) : code ≠ [] := by
  rintro rfl
  have hlength := congrArg List.length h.lines_eq
  simp only [lines, pieces, List.length_cons, List.length_nil, List.length_append] at hlength
  omega

/-- No method begins the code of another. -/
theorem text_eq_of_append_eq (hr : r.member ∈ (s.generator tabs options).members source)
    (hq : q.member ∈ (s.generator tabs options).members source) {a b : Text}
    (h : r.text (s.template.indented tabs) ++ a = q.text (s.template.indented tabs) ++ b) :
    r.text (s.template.indented tabs) = q.text (s.template.indented tabs) := by
  obtain ⟨comment, signature, statements, hparts⟩ := exists_parted hr
  obtain ⟨comment', signature', statements', hparts'⟩ := exists_parted hq
  have hlines := congrArg lines h
  rw [hparts.lines_append, hparts'.lines_append] at hlines
  have hbefore :=
    (append_cons_inj_of_notMem hparts.method_clear hparts'.method_clear hlines).1
  rw [← joinWith_lines (r.text _), ← joinWith_lines (q.text _), hparts.lines_eq, hparts'.lines_eq,
    hbefore]

theorem text_ne_nil (hr : r.member ∈ (s.generator tabs options).members source) :
    r.text (s.template.indented tabs) ≠ [] := by
  obtain ⟨comment, signature, statements, hparts⟩ := exists_parted hr
  exact hparts.ne_nil

/-- Code comes apart into its methods in one way only. -/
theorem map_text_eq_of_flatMap_eq {rs qs : List Request}
    (hrs : ∀ r ∈ rs, r.member ∈ (s.generator tabs options).members source)
    (hqs : ∀ q ∈ qs, q.member ∈ (s.generator tabs options).members source)
    (h : rs.flatMap (text (s.template.indented tabs)) =
      qs.flatMap (text (s.template.indented tabs))) :
    rs.map (text (s.template.indented tabs)) = qs.map (text (s.template.indented tabs)) := by
  induction rs generalizing qs with
  | nil =>
    cases qs with
    | nil => rfl
    | cons q qs =>
      exact absurd (List.append_eq_nil_iff.mp h.symm).1
        (text_ne_nil (List.forall_mem_cons.mp hqs).1)
  | cons r rs ih =>
    obtain ⟨hr, hrs⟩ := List.forall_mem_cons.mp hrs
    cases qs with
    | nil => exact absurd (List.append_eq_nil_iff.mp h).1 (text_ne_nil hr)
    | cons q qs =>
      obtain ⟨hq, hqs⟩ := List.forall_mem_cons.mp hqs
      rw [List.flatMap_cons, List.flatMap_cons] at h
      have htext := text_eq_of_append_eq hr hq h
      rw [htext, List.append_cancel_left_eq] at h
      rw [List.map_cons, List.map_cons, htext, ih hrs hqs h]

theorem IsSignature.method_eq {l : Text} (h : r.IsSignature tabs l) (h' : q.IsSignature tabs l)
    (hr : IsName r.method) (hq : IsName q.method) : r.method = q.method := by
  obtain ⟨v, rest, rfl⟩ := h
  obtain ⟨v', rest', heq⟩ := h'
  have hspace : ∀ v : Visibility, ' ' ∉ v.keyword := by
    intro v
    cases v <;> decide
  simp only [List.append_assoc, List.append_cancel_left_eq] at heq
  have hafter := (append_cons_inj_of_notMem (hspace v) (hspace v')
    (u := "function ".toList ++ (r.method ++ '(' :: rest))
    (v := "function ".toList ++ (q.method ++ '(' :: rest')) heq).2
  exact (append_cons_inj_of_notMem (hr.notMem (by decide)) (hq.notMem (by decide))
    (List.append_cancel_left hafter)).1

/-- The code of a method tells its name. -/
theorem method_eq_of_text_eq (hr : r.member ∈ (s.generator tabs options).members source)
    (hq : q.member ∈ (s.generator tabs options).members source)
    (h : r.text (s.template.indented tabs) = q.text (s.template.indented tabs)) :
    r.method = q.method := by
  obtain ⟨comment, signature, statements, hparts⟩ := exists_parted hr
  obtain ⟨comment', signature', statements', hparts'⟩ := exists_parted hq
  have hlines := hparts'.lines_eq
  rw [← h, hparts.lines_eq, List.append_assoc, List.append_assoc] at hlines
  have hafter := (append_cons_inj_of_notMem hparts.comment_clear hparts'.comment_clear hlines).2
  have hsignature := hparts'.isSignature
  rw [← (List.cons.inj hafter).1] at hsignature
  exact hparts.isSignature.method_eq hsignature
    (isName_method (Generator.fits_of_mem_members hr).name)
    (isName_method (Generator.fits_of_mem_members hq).name)

end Request

end Accessors

import Accessors.Proofs.CatalogueLaws
import Accessors.Proofs.DeclaredMethods
import Accessors.Proofs.NameCharacters

/-!
# Facts quoted from a source

The type of a member and each line of its description are quoted from the doc comment above it:
they stand in the source, and a word can begin where they begin. So a quotation declares no method
that the source does not declare.
-/

namespace Accessors

open Text

namespace Method

/-- `v` stands in `t` where a word can begin. -/
def StandsIn (v t : Text) : Prop :=
  ∃ a b, t = a ++ v ++ b ∧ EndsWord a

theorem endsWord_of_forall {p : Text} (h : ∀ c ∈ p, isWord c = false) : EndsWord p :=
  fun c hc => h c (List.mem_of_getLast? hc)

theorem endsWord_concat {c : Char} (h : isWord c = false) (p : Text) : EndsWord (p ++ [c]) := by
  intro d hd
  rw [List.getLast?_concat] at hd
  rwa [← Option.some.inj hd]

theorem EndsWord.append {p q : Text} (hp : EndsWord p) (hq : EndsWord q) : EndsWord (p ++ q) := by
  cases q with
  | nil => rwa [List.append_nil]
  | cons c q => exact (endsWord_append (List.cons_ne_nil c q)).mpr hq

namespace StandsIn

variable {u v t : Text}

theorem trans (huv : StandsIn u v) (hvt : StandsIn v t) : StandsIn u t := by
  obtain ⟨a, b, rfl, ha⟩ := huv
  obtain ⟨a', b', rfl, ha'⟩ := hvt
  exact ⟨a' ++ a, b ++ b', by simp, ha'.append ha⟩

theorem mem {c : Char} (h : StandsIn v t) (hc : c ∈ v) : c ∈ t := by
  obtain ⟨a, b, rfl, -⟩ := h
  simp [hc]

theorem declares {name : Text} (h : StandsIn v t) (hd : Method.declares v name = true) :
    Method.declares t name = true := by
  obtain ⟨a, b, rfl, ha⟩ := h
  obtain ⟨p, d, rest, rfl, hspelling, hp⟩ := declares_iff.mp hd
  exact declares_iff.mpr ⟨a ++ p, d, rest ++ b, by simp, hspelling, ha.append hp⟩

theorem dropTrailing (p : Char → Bool) (t : Text) : StandsIn (Text.dropTrailing p t) t := by
  obtain ⟨w, hw, -, -⟩ := exists_dropTrailing_append p t
  exact ⟨[], w, hw, endsWord_nil⟩

theorem trimBy {p : Char → Bool} (hp : ∀ c, p c = true → isWord c = false) (t : Text) :
    StandsIn (Text.trimBy p t) t := by
  refine trans (dropTrailing p (t.dropWhile p)) ⟨t.takeWhile p, [], ?_, ?_⟩
  · rw [List.append_nil, List.takeWhile_append_dropWhile]
  · exact endsWord_of_forall fun c hc => hp c (List.mem_takeWhile_imp hc)

theorem joinWith {ts : List Text} (h : v ∈ ts) : StandsIn v (Text.joinWith ['\n'] ts) := by
  induction ts with
  | nil => cases h
  | cons t ts ih =>
    cases ts with
    | nil =>
      rw [List.mem_singleton.mp h]
      exact ⟨[], [], by simp [Text.joinWith], endsWord_nil⟩
    | cons u ts =>
      rw [Text.joinWith, List.intercalate_cons_cons, ← Text.joinWith]
      rcases List.mem_cons.mp h with rfl | hrest
      · exact ⟨[], _, by rw [List.nil_append, List.append_assoc], endsWord_nil⟩
      · exact trans (ih hrest) ⟨t ++ ['\n'], [], by simp, endsWord_concat (by decide) t⟩

theorem line (h : v ∈ lines t) : StandsIn v t := by
  have hjoin := joinWith h
  rwa [joinWith_lines] at hjoin

end StandsIn

theorem isWord_eq_false_of_isSpace {c : Char} (h : isSpace c = true) : isWord c = false := by
  rw [Bool.eq_false_iff]
  intro hword
  rw [isSpace_eq_false_of_isNameChar (isNameChar_of_isWord hword)] at h
  cases h

end Method

open Method (StandsIn)

namespace DocLine

theorem standsIn_strip (line : Text) : StandsIn (strip line) line := by
  refine StandsIn.trans (StandsIn.dropTrailing _ _) (StandsIn.trimBy ?_ line)
  intro c hc
  simp only [isFrame, Bool.or_eq_true, beq_iff_eq] at hc
  rcases hc with (((rfl | rfl) | rfl) | rfl) | rfl <;> decide

theorem standsIn_tag {line name value : Text} (h : read line = tag name value) :
    StandsIn value line := by
  refine StandsIn.trans ?_ (standsIn_strip line)
  rw [read] at h
  unfold ofStripped at h
  split at h
  · cases h
  · next rest hstrip =>
    split at h
    · next n v htag =>
      obtain ⟨rfl, rfl⟩ := DocLine.tag.inj h
      rw [hstrip]
      unfold tag? at htag
      split at htag
      · next d name value hname hvalue =>
        obtain ⟨-, rfl⟩ := Prod.mk.inj (Option.some.inj htag)
        have htrim := StandsIn.trimBy (fun c => Method.isWord_eq_false_of_isSpace) value
        refine StandsIn.trans htrim ?_
        refine ⟨'@' :: rest.takeWhile isWord ++ [' '], [], ?_, ?_⟩
        · conv_lhs => rw [← List.takeWhile_append_dropWhile (p := isWord) (l := rest), hvalue]
          simp
        · exact Method.endsWord_concat (by decide) _
      · cases htag
    · cases h
  · cases h

def value? (k : Text) : DocLine → Option Text
  | tag name value => if name = k then some value else none
  | _ => none

theorem value?_eq_some_iff {k v : Text} {l : DocLine} : l.value? k = some v ↔ l = tag k v := by
  cases l <;> simp [value?]

theorem value?_eq_none_iff {k : Text} {l : DocLine} : l.value? k = none ↔ ∀ v, l ≠ tag k v := by
  cases l <;> simp [value?]

theorem find?_record (tags : NameMap Text) (l : DocLine) (k : Text) :
    (record tags l).find? k = (l.value? k).or (tags.find? k) := by
  cases l with
  | tag name value =>
    rw [record, NameMap.find?_insert, value?]
    by_cases h : name = k
    · simp [h]
    · simp [h, Ne.symm h]
  | blank | prose _ | unreadable _ => rfl

theorem isFrame_head?_strip {line : Text} {c : Char} (h : c ∈ (strip line).head?) :
    isFrame c = false := by
  obtain ⟨-, -, -, -, -, hfirst, -⟩ := exists_trimBy_append isFrame line
  obtain ⟨periods, hperiods, -, -⟩ := exists_dropTrailing_append (· == '.') (trimBy isFrame line)
  apply hfirst
  rw [hperiods]
  exact List.mem_head?_append_of_mem_head? h

theorem eq_strip_of_prose? {line t : Text} (h : (read line).prose? = some t) : t = strip line := by
  rw [read] at h
  unfold ofStripped at h
  split at h
  · cases h
  · split at h <;> cases h
  · exact (Option.some.inj h).symm

end DocLine

namespace DocComment

theorem find?_foldl_record (ls : List DocLine) (tags : NameMap Text) (k : Text) :
    (ls.foldl DocLine.record tags).find? k =
      (ls.reverse.findSome? (DocLine.value? k)).or (tags.find? k) := by
  induction ls generalizing tags with
  | nil => rfl
  | cons l ls ih =>
    rw [List.foldl_cons, ih, List.reverse_cons, List.findSome?_append, Option.or_assoc,
      DocLine.find?_record]
    simp

theorem find?_tags (t k : Text) :
    (parse t).tags.find? k =
      ((lines t).map DocLine.read).reverse.findSome? (DocLine.value? k) := by
  rw [parse, ofLines, find?_foldl_record, NameMap.find?_empty, Option.or_none]

/-- The last line that gives a tag decides its value. -/
theorem find?_tags_eq_some_iff {t k v : Text} :
    (parse t).tags.find? k = some v ↔
      ∃ before line after, lines t = before ++ line :: after ∧
        DocLine.read line = .tag k v ∧ ∀ l ∈ after, ∀ w, DocLine.read l ≠ .tag k w := by
  rw [find?_tags, ← List.map_reverse, List.findSome?_map, List.findSome?_eq_some_iff]
  simp only [Function.comp_apply, DocLine.value?_eq_some_iff, DocLine.value?_eq_none_iff]
  constructor
  · rintro ⟨after, line, before, hlines, hread, hafter⟩
    refine ⟨before.reverse, line, after.reverse, ?_, hread, fun l hl => ?_⟩
    · rw [← List.reverse_reverse (lines t), hlines]
      simp
    · exact hafter l (List.mem_reverse.mp hl)
  · rintro ⟨before, line, after, hlines, hread, hafter⟩
    refine ⟨after.reverse, line, before.reverse, ?_, hread, fun l hl => ?_⟩
    · rw [hlines]
      simp
    · exact hafter l (List.mem_reverse.mp hl)

/-- The value of a tag stands on a line of the comment. -/
theorem exists_line_of_tag {t k v : Text} (h : (parse t).tags.find? k = some v) :
    ∃ line ∈ lines t, StandsIn v line := by
  obtain ⟨before, line, after, hlines, hread, -⟩ := find?_tags_eq_some_iff.mp h
  exact ⟨line, by simp [hlines], DocLine.standsIn_tag hread⟩

def prose (t : Text) : List Text :=
  ((lines t).map DocLine.read).filterMap DocLine.prose?

theorem exists_strip_of_mem_prose {t p : Text} (h : p ∈ prose t) :
    ∃ line ∈ lines t, p = DocLine.strip line := by
  obtain ⟨read, hread, hp⟩ := List.mem_filterMap.mp h
  obtain ⟨line, hline, rfl⟩ := List.mem_map.mp hread
  exact ⟨line, hline, DocLine.eq_strip_of_prose? hp⟩

theorem lines_description {t : Text} (h : (parse t).hasDescription = true) :
    lines (parse t).description = prose t := by
  apply lines_joinWith
  · intro p hp hnewline
    obtain ⟨line, hline, rfl⟩ := exists_strip_of_mem_prose hp
    exact newline_notMem_of_mem_lines hline ((DocLine.standsIn_strip line).mem hnewline)
  · intro hnil
    rw [hasDescription, parse, ofLines, hnil] at h
    cases h

/-- A description of one line stands on a line of the comment. -/
theorem exists_line_of_description {t : Text} (hne : (parse t).hasDescription = true)
    (hline : '\n' ∉ (parse t).description) :
    ∃ line ∈ lines t, StandsIn (parse t).description line := by
  have hlines := lines_description hne
  rw [lines_eq_singleton hline] at hlines
  obtain ⟨line, hmem, hstrip⟩ := exists_strip_of_mem_prose (hlines ▸ List.mem_singleton_self _)
  refine ⟨line, hmem, ?_⟩
  rw [hstrip]
  exact DocLine.standsIn_strip line

end DocComment

namespace DocBlock

theorem standsIn_clean (line : Text) : StandsIn (clean line) line :=
  StandsIn.dropTrailing _ line

theorem exists_clean_cons {above : List Text} {l : Text} (h : ∃ u ∈ above, l = clean u)
    (line : Text) : ∃ u ∈ line :: above, l = clean u := by
  obtain ⟨u, hu, hl⟩ := h
  exact ⟨u, List.mem_cons_of_mem line hu, hl⟩

theorem exists_of_climb {below above : List Text} {t : Text} (h : climb below above = some t) :
    ∃ block, block ≠ [] ∧ t = joinWith ['\n'] block ∧
      ∀ l ∈ block, l ∈ below ∨ ∃ u ∈ above, l = clean u := by
  induction above generalizing below with
  | nil => cases h
  | cons line above ih =>
    rw [climb] at h
    dsimp only at h
    split at h
    · obtain ⟨block, hne, ht, hblock⟩ := ih h
      refine ⟨block, hne, ht, fun l hl => .inr ?_⟩
      rcases hblock l hl with hnil | hclean
      · cases hnil
      · exact exists_clean_cons hclean line
    split at h
    · obtain ⟨block, hne, ht, hblock⟩ := ih h
      exact ⟨block, hne, ht, fun l hl => (hblock l hl).imp_right (exists_clean_cons · line)⟩
    split at h
    · split at h
      · split at h
        · cases h
        · next hempty =>
          exact ⟨below, by simpa using hempty, (Option.some.inj h).symm, fun l hl => .inl hl⟩
      · refine ⟨clean line :: below, List.cons_ne_nil _ _, (Option.some.inj h).symm, ?_⟩
        intro l hl
        rcases List.mem_cons.mp hl with rfl | hl
        · exact .inr ⟨line, List.mem_cons_self, rfl⟩
        · exact .inl hl
    split at h
    · obtain ⟨block, hne, ht, hblock⟩ := ih h
      refine ⟨block, hne, ht, fun l hl => ?_⟩
      rcases hblock l hl with hbelow | hclean
      · rcases List.mem_cons.mp hbelow with rfl | hbelow
        · exact .inr ⟨line, List.mem_cons_self, rfl⟩
        · exact .inl hbelow
      · exact .inr (exists_clean_cons hclean line)
    · cases h

/-- The block above a line is made of lines that stand above it. -/
theorem exists_of_above? {above : List Text} {t : Text} (h : above? above = some t) :
    ∃ block, block ≠ [] ∧ t = joinWith ['\n'] block ∧ ∀ l ∈ block, ∃ u ∈ above, l = clean u := by
  induction above with
  | nil => cases h
  | cons line above ih =>
    rw [above?] at h
    split at h
    · obtain ⟨block, hne, ht, hblock⟩ := ih h
      exact ⟨block, hne, ht, fun l hl => exists_clean_cons (hblock l hl) line⟩
    split at h
    · obtain ⟨block, hne, ht, hblock⟩ := exists_of_climb h
      refine ⟨block, hne, ht, fun l hl => ?_⟩
      rcases hblock l hl with hnil | hclean
      · cases hnil
      · exact exists_clean_cons hclean line
    split at h
    · refine ⟨[clean line], List.cons_ne_nil _ _, ?_, ?_⟩
      · rw [← Option.some.inj h]
        simp [joinWith]
      · intro l hl
        exact ⟨line, List.mem_cons_self, List.mem_singleton.mp hl⟩
    · cases h

/-- What stands on a line of the block above a line stands in the source. -/
theorem standsIn_of_above? {above : List Text} {source t v line : Text}
    (habove : ∀ l ∈ above, l ∈ lines source) (h : above? above = some t) (hline : line ∈ lines t)
    (hv : StandsIn v line) : StandsIn v source := by
  obtain ⟨block, hne, rfl, hblock⟩ := exists_of_above? h
  have hnewline : ∀ l ∈ block, '\n' ∉ l := by
    intro l hl hmem
    obtain ⟨u, hu, rfl⟩ := hblock l hl
    exact newline_notMem_of_mem_lines (habove u hu) ((standsIn_clean u).mem hmem)
  rw [lines_joinWith hnewline hne] at hline
  obtain ⟨u, hu, rfl⟩ := hblock line hline
  exact (hv.trans (standsIn_clean u)).trans (StandsIn.line (habove u hu))

end DocBlock

theorem Finding.doc_of_read? {above : List Text} {l : Text} {d : Declaration}
    (h : read? above l = some (.member d)) :
    d.doc = (DocBlock.above? above).map DocComment.parse := by
  obtain ⟨line, -, hd⟩ := Option.map_eq_some_iff.mp h
  split at hd
  · obtain rfl := Finding.member.inj hd
    rfl
  · cases hd

theorem Method.declares_eq_false {t : Text} (h : '(' ∉ t) (name : Text) :
    declares t name = false := by
  rw [Bool.eq_false_iff]
  intro hd
  obtain ⟨p, d, rest, rfl, ⟨⟩, -⟩ := declares_iff.mp hd
  simp at h

theorem Member.descriptionOf_cases (name : Text) (doc : Option DocComment) :
    descriptionOf name doc = "value of ".toList ++ name ∨
      ∃ d, doc = some d ∧ d.hasDescription = true ∧ descriptionOf name doc = d.description := by
  unfold descriptionOf
  split
  · next d =>
    split
    · next hd => exact .inr ⟨d, rfl, hd, rfl⟩
    · exact .inl rfl
  · exact .inl rfl

namespace Generator

variable {g : Generator} {source : Text} {m : Member}

/-- The type of a member stands on a line of the source, or is the default. -/
theorem declaredType_cases (h : m ∈ g.members source) :
    (StandsIn m.declaredType source ∧ '\n' ∉ m.declaredType) ∨
      m.declaredType = Member.defaultType := by
  obtain ⟨above, line, d, hread, habove, rfl⟩ := exists_read?_of_mem_members h
  simp only [Member.ofDeclaration, Finding.doc_of_read? hread, Member.typeOf]
  cases hblock : DocBlock.above? above with
  | none => exact .inr rfl
  | some t =>
    rw [Option.map_some, Option.bind_some]
    cases htag : (DocComment.parse t).tags.find? "var" with
    | none => exact .inr rfl
    | some v =>
      obtain ⟨l, hl, hv⟩ := DocComment.exists_line_of_tag htag
      refine .inl ⟨DocBlock.standsIn_of_above? habove hblock hl hv, fun hnewline => ?_⟩
      exact newline_notMem_of_mem_lines hl (hv.mem hnewline)

/-- A description of one line stands in the source, or is made from the name. -/
theorem description_cases (h : m ∈ g.members source) (hline : '\n' ∉ m.description) :
    StandsIn m.description source ∨ m.description = "value of ".toList ++ m.name := by
  obtain ⟨above, line, d, hread, habove, rfl⟩ := exists_read?_of_mem_members h
  rcases Member.descriptionOf_cases d.name d.doc with hname | ⟨comment, hdoc, hne, hdescription⟩
  · exact .inr hname
  · rw [Finding.doc_of_read? hread] at hdoc
    obtain ⟨t, hblock, rfl⟩ := Option.map_eq_some_iff.mp hdoc
    have hquoted : (Member.ofDeclaration g.template g.options d).description =
        (DocComment.parse t).description := hdescription
    rw [hquoted] at hline ⊢
    obtain ⟨l, hl, hv⟩ := DocComment.exists_line_of_description hne hline
    exact .inl (DocBlock.standsIn_of_above? habove hblock hl hv)

theorem declares_of_declaredType {n : Text} (h : m ∈ g.members source)
    (hd : Method.declares m.declaredType n = true) : Method.declares source n = true := by
  rcases declaredType_cases h with ⟨hstands, -⟩ | hdefault
  · exact hstands.declares hd
  · rw [hdefault, Method.declares_eq_false (by decide)] at hd
    cases hd

theorem declares_of_description {n : Text} (h : m ∈ g.members source)
    (hline : '\n' ∉ m.description) (hd : Method.declares m.description n = true) :
    Method.declares source n = true := by
  rcases description_cases h hline with hstands | hname
  · exact hstands.declares hd
  · have hopen : '(' ∉ m.description := by
      rw [hname, List.mem_append, not_or]
      exact ⟨by decide, (isName_of_mem_members h).notMem (by decide)⟩
    rw [Method.declares_eq_false hopen] at hd
    cases hd

end Generator

end Accessors

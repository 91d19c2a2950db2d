import Accessors.Proofs.InertCode
import Accessors.Proofs.SetterGaps

/-!
# Types that pass for one

The parameter of a setter gets the declared type as its hint, unless it is more than one type. That
is told by a space or a bar. The type is the trimmed value of a tag, so it may still be parted by
other white space, such as a tab. Such a type passes for one and is written with all its words.
-/

namespace Accessors

open Text

namespace Text

/-- The words of a text: what stands between its white space. -/
def words (t : Text) : List Text :=
  (t.splitOnP isSpace).filter (!·.isEmpty)

variable {c : Char} {t : Text}

theorem words_append_space (hc : isSpace c = true) (s t : Text) :
    words (s ++ c :: t) = words s ++ words t := by
  rw [words, List.splitOnP_append_cons s t hc, List.filter_append]
  rfl

theorem words_ne_nil (hmem : c ∈ t) (hc : isSpace c = false) : words t ≠ [] := by
  induction t with
  | nil => cases hmem
  | cons d t ih =>
    cases hd : isSpace d with
    | true =>
      have hne : c ≠ d := by
        rintro rfl
        rw [hc] at hd
        cases hd
      rw [← List.nil_append (d :: t), words_append_space hd]
      exact ih (List.mem_of_ne_of_mem hne hmem)
    | false =>
      obtain ⟨p, ps, hps⟩ := List.exists_cons_of_ne_nil (List.splitOnP_ne_nil isSpace t)
      simp [words, List.splitOnP_cons_eq_if_modifyHead, hd, hps]

/-- A text without white space at its ends is one word just if it has none inside. -/
theorem length_words_le_one_iff (hfirst : ∀ c ∈ t.head?, isSpace c = false)
    (hlast : ∀ c ∈ t.getLast?, isSpace c = false) :
    (words t).length ≤ 1 ↔ ∀ c ∈ t, isSpace c = false := by
  constructor
  · intro hlength c hc
    rw [Bool.eq_false_iff]
    intro hspace
    obtain ⟨a, b, rfl⟩ := List.append_of_mem hc
    have ha : words a ≠ [] := by
      cases a with
      | nil => exact absurd hspace (by simp [hfirst c rfl])
      | cons d a => exact words_ne_nil List.mem_cons_self (hfirst d rfl)
    have hb : words b ≠ [] := by
      rw [List.getLast?_append_of_ne_nil _ (List.cons_ne_nil c b)] at hlast
      rcases List.eq_nil_or_concat b with rfl | ⟨b, d, rfl⟩
      · exact absurd hspace (by simp [hlast c rfl])
      · rw [List.concat_eq_append, ← List.cons_append, List.getLast?_concat] at hlast
        exact words_ne_nil (by simp) (hlast d rfl)
    rw [words_append_space hspace, List.length_append] at hlength
    have := List.length_pos_iff.mpr ha
    have := List.length_pos_iff.mpr hb
    omega
  · intro h
    rw [words, List.splitOnP_eq_singleton h]
    exact List.length_filter_le _ _

end Text

namespace DocLine

/-- The lines that give a tag. Between the frame and final periods stand the tag, a space, and the
value among white space. -/
inductive TagLine (name : Text) : Text → Text → Prop
  | intro (frame value periods frame' : Text)
      (hframe : ∀ c ∈ frame, isFrame c) (hframe' : ∀ c ∈ frame', isFrame c)
      (hperiods : ∀ c ∈ periods, c = '.') (hvalue : value.getLast? ≠ some '.')
      (hlast : ∃ c ∈ (value ++ periods).getLast?, isFrame c = false) :
      TagLine name (frame ++ ('@' :: name ++ ' ' :: value ++ periods) ++ frame') (trim value)

theorem tag?_eq_some_iff {t name v : Text} :
    tag? t = some (name, v) ↔
      name ≠ [] ∧ (∀ c ∈ name, isWord c) ∧ ∃ value, t = name ++ ' ' :: value ∧ v = trim value := by
  have hsplit := List.takeWhile_append_dropWhile (p := isWord) (l := t)
  constructor
  · intro h
    unfold tag? at h
    split at h
    · next c n value hname hvalue =>
      obtain ⟨rfl, rfl⟩ := Prod.mk.inj (Option.some.inj h)
      rw [hname, hvalue] at hsplit
      refine ⟨List.cons_ne_nil c n, fun d hd => ?_, value, hsplit.symm, rfl⟩
      rw [← hname] at hd
      exact List.mem_takeWhile_imp hd
    · cases h
  · rintro ⟨hne, hword, value, rfl, rfl⟩
    have hspace : ¬isWord ' ' = true := by decide
    have htake : (name ++ ' ' :: value).takeWhile isWord = name := by
      rw [List.takeWhile_append_of_pos hword, List.takeWhile_cons_of_neg hspace, List.append_nil]
    have hdrop : (name ++ ' ' :: value).dropWhile isWord = ' ' :: value := by
      rw [List.dropWhile_append_of_pos hword, List.dropWhile_cons_of_neg hspace]
    obtain ⟨c, n, rfl⟩ := List.exists_cons_of_ne_nil hne
    rw [tag?, htake, hdrop]
    rfl

theorem ofStripped_eq_tag_iff {t name v : Text} :
    ofStripped t = tag name v ↔ ∃ rest, t = '@' :: rest ∧ tag? rest = some (name, v) := by
  unfold ofStripped
  split
  · simp
  · next rest =>
    cases htag : tag? rest with
    | none => simp [htag]
    | some p =>
      obtain ⟨n, w⟩ := p
      simp [htag]
  · next hne =>
    constructor
    · intro h
      cases h
    · rintro ⟨rest, rfl, -⟩
      exact absurd rfl (hne rest)

theorem getLast?_append_space (s t : Text) :
    (s ++ ' ' :: t).getLast? = some (t.getLast?.getD ' ') := by
  rw [List.getLast?_append_of_ne_nil _ (List.cons_ne_nil _ _), List.getLast?_cons]

/-- A line gives a tag just if it has the form of one that does. -/
theorem read_eq_tag_iff {line name v : Text} (hne : name ≠ []) (hword : ∀ c ∈ name, isWord c) :
    read line = tag name v ↔ TagLine name line v := by
  have hregroup : ∀ value periods : Text,
      '@' :: name ++ ' ' :: value ++ periods = '@' :: name ++ ' ' :: (value ++ periods) :=
    fun value periods => List.append_assoc _ _ _
  rw [read, ofStripped_eq_tag_iff]
  constructor
  · rintro ⟨rest, hstrip, htag⟩
    obtain ⟨-, -, value, rfl, rfl⟩ := tag?_eq_some_iff.mp htag
    obtain ⟨frame, frame', hline, hframe, hframe', -, hlast⟩ := exists_trimBy_append isFrame line
    obtain ⟨periods, hbody, hperiods, hvalue⟩ :=
      exists_dropTrailing_append (· == '.') (trimBy isFrame line)
    rw [strip, ← List.cons_append] at hstrip
    rw [hstrip] at hbody hvalue
    rw [hbody] at hline hlast
    rw [hregroup, getLast?_append_space] at hlast
    rw [getLast?_append_space] at hvalue
    rw [hline]
    refine .intro frame value periods frame' hframe hframe' (by simpa using hperiods) ?_ ?_
    · intro hperiod
      simp [hperiod] at hvalue
    · have hframed := hlast _ rfl
      cases hend : (value ++ periods).getLast? with
      | none =>
        rw [hend] at hframed
        cases hframed
      | some c =>
        rw [hend] at hframed
        exact ⟨c, rfl, hframed⟩
  · rintro ⟨frame, value, periods, frame', hframe, hframe', hperiods, hvalue, c, hc, hlast⟩
    refine ⟨name ++ ' ' :: value, ?_, tag?_eq_some_iff.mpr ⟨hne, hword, value, rfl, rfl⟩⟩
    have hbody : trimBy isFrame (frame ++ ('@' :: name ++ ' ' :: value ++ periods) ++ frame') =
        '@' :: name ++ ' ' :: value ++ periods := by
      apply trimBy_eq_of_parts hframe hframe'
      · rintro d ⟨⟩
        rfl
      · rw [hregroup, getLast?_append_space, Option.mem_def.mp hc]
        rintro d ⟨⟩
        exact hlast
    rw [strip, hbody, dropTrailing_append_of_pos (by simpa using hperiods), dropTrailing_eq_self]
    · rfl
    · rw [getLast?_append_space]
      rintro d ⟨⟩
      cases hend : value.getLast? with
      | none => rfl
      | some e =>
        rw [hend] at hvalue
        simpa using hvalue

end DocLine

namespace DocComment

/-- The value that a doc comment gives a tag: that of the last line which gives one. -/
def GivesTag (name text value : Text) : Prop :=
  ∃ before line after, lines text = before ++ line :: after ∧ DocLine.TagLine name line value ∧
    ∀ l ∈ after, ∀ v, ¬DocLine.TagLine name l v

theorem find?_tags_iff {name text value : Text} (hne : name ≠ []) (hword : ∀ c ∈ name, isWord c) :
    (parse text).tags.find? name = some value ↔ GivesTag name text value := by
  simp only [find?_tags_eq_some_iff, GivesTag, ne_eq, DocLine.read_eq_tag_iff hne hword]

theorem GivesTag.ends {name text value : Text} (h : GivesTag name text value) :
    (∀ c ∈ value.head?, isSpace c = false) ∧ ∀ c ∈ value.getLast?, isSpace c = false := by
  obtain ⟨-, -, -, -, ⟨-, value, -, -, -, -, -, -, -⟩, -⟩ := h
  obtain ⟨-, -, -, -, -, hends⟩ := exists_trim_append value
  exact hends

end DocComment

/-- A type that passes for one. Neither a space nor a bar parts it, but other white space does. -/
structure TypeHint.Slips (ignored : List Text) (type : Text) : Prop where
  wanted : type ∉ ignored
  noSpace : ' ' ∉ type
  noBar : '|' ∉ type
  parted : ∃ c ∈ type, isSpace c = true

namespace Member

/-- The hint is empty, or it is the declared type, wanted, and a single type. -/
def HintsSingleType (options : Options) (m : Member) : Prop :=
  m.hint.text = [] ∨
    m.hint.text = m.declaredType ∧ m.hint.text ∉ options.hintIgnore ∧ '|' ∉ m.hint.text ∧
      ∀ c ∈ m.hint.text, isSpace c = false

def documented (template : Template) (options : Options) (d : Declaration) (doc : Option Text) :
    Member :=
  ofDeclaration template options { d with doc := doc.map DocComment.parse }

/-- The type is what the doc comment gives for its tag, or the default. -/
theorem typeOf_cases (doc : Option Text) :
    (∃ text, doc = some text ∧ ∀ type,
        DocComment.GivesTag "var" text type ↔ type = typeOf (doc.map DocComment.parse)) ∨
      typeOf (doc.map DocComment.parse) = defaultType ∧
        ∀ text type, doc = some text → ¬DocComment.GivesTag "var" text type := by
  have hvar : ∀ {text type}, (DocComment.parse text).tags.find? "var" = some type ↔
      DocComment.GivesTag "var" text type :=
    DocComment.find?_tags_iff (by decide) (List.all_eq_true.mp rfl)
  cases doc with
  | none => exact .inr ⟨rfl, fun text type h => by cases h⟩
  | some text =>
    have htype : typeOf ((some text).map DocComment.parse) =
        ((DocComment.parse text).tags.find? "var").getD defaultType := rfl
    rw [htype]
    cases htag : (DocComment.parse text).tags.find? "var" with
    | none =>
      refine .inr ⟨rfl, ?_⟩
      rintro _ type ⟨⟩ hgives
      rw [hvar.mpr hgives] at htag
      cases htag
    | some type' =>
      refine .inl ⟨text, rfl, fun type => ?_⟩
      rw [← hvar, htag, Option.some.injEq, eq_comm]
      rfl

theorem typeOf_ends (doc : Option Text) :
    (∀ c ∈ (typeOf (doc.map DocComment.parse)).head?, isSpace c = false) ∧
      ∀ c ∈ (typeOf (doc.map DocComment.parse)).getLast?, isSpace c = false := by
  rcases typeOf_cases doc with ⟨text, -, hgives⟩ | ⟨hdefault, -⟩
  · exact ((hgives _).mpr rfl).ends
  · rw [hdefault]
    constructor <;>
    · rintro c ⟨⟩
      decide

theorem slips_typeOf_iff {ignored : List Text} {doc : Option Text} :
    TypeHint.Slips ignored (typeOf (doc.map DocComment.parse)) ↔
      ∃ text type, doc = some text ∧ DocComment.GivesTag "var" text type ∧
        TypeHint.Slips ignored type := by
  rcases typeOf_cases doc with ⟨text, rfl, hgives⟩ | ⟨hdefault, hnone⟩
  · constructor
    · intro h
      exact ⟨text, _, rfl, (hgives _).mpr rfl, h⟩
    · rintro ⟨_, type, ⟨⟩, htype, h⟩
      rwa [← (hgives type).mp htype]
  · constructor
    · intro h
      obtain ⟨c, hc, hspace⟩ := h.parted
      rw [hdefault] at hc
      have hall : defaultType.all (!isSpace ·) = true := by decide
      have hnone := List.all_eq_true.mp hall c hc
      simp [hspace] at hnone
    · rintro ⟨text, type, hdoc, htype, -⟩
      exact absurd htype (hnone text type hdoc)

variable {template : Template} {options : Options} {d : Declaration} {doc : Option Text}

theorem hint_documented_cases :
    (documented template options d doc).hint.text = [] ∧
        ¬TypeHint.Slips options.hintIgnore (documented template options d doc).declaredType ∨
      (documented template options d doc).hint.text =
          (documented template options d doc).declaredType ∧
        (documented template options d doc).declaredType ∉ options.hintIgnore ∧
        ' ' ∉ (documented template options d doc).declaredType ∧
        '|' ∉ (documented template options d doc).declaredType := by
  refine (TypeHint.text_ofDeclared_cases options.hintIgnore
    (documented template options d doc).declaredType).imp_left ?_
  rintro ⟨htext, hreason⟩
  refine ⟨htext, fun hslips => ?_⟩
  rcases hreason with hempty | hignored | hspace | hbar
  · obtain ⟨c, hc, -⟩ := hslips.parted
    rw [hempty] at hc
    cases hc
  · exact hslips.wanted hignored
  · exact hslips.noSpace hspace
  · exact hslips.noBar hbar

/-- The hint is a single type just if the declared type does not slip through. -/
theorem hintsSingleType_documented_iff :
    (documented template options d doc).HintsSingleType options ↔
      ¬TypeHint.Slips options.hintIgnore (documented template options d doc).declaredType := by
  rcases @hint_documented_cases template options d doc with
    ⟨hempty, hslips⟩ | ⟨hdeclared, hwanted, hspace, hbar⟩
  · exact ⟨fun _ => hslips, fun _ => .inl hempty⟩
  · constructor
    · rintro (hempty | ⟨-, -, -, hnone⟩) hslips
      · obtain ⟨c, hc, -⟩ := hslips.parted
        rw [← hdeclared, hempty] at hc
        cases hc
      · obtain ⟨c, hc, hparts⟩ := hslips.parted
        rw [← hdeclared] at hc
        rw [hnone c hc] at hparts
        cases hparts
    · intro hslips
      refine .inr ⟨hdeclared, hdeclared ▸ hwanted, hdeclared ▸ hbar, fun c hc => ?_⟩
      rw [Bool.eq_false_iff]
      intro hparts
      exact hslips ⟨hwanted, hspace, hbar, c, hdeclared ▸ hc, hparts⟩

/-- The hint is one word at most just if it is a single type. -/
theorem length_words_hint_iff :
    (words (documented template options d doc).hint.text).length ≤ 1 ↔
      (documented template options d doc).HintsSingleType options := by
  rcases @hint_documented_cases template options d doc with
    ⟨hempty, -⟩ | ⟨hdeclared, hwanted, -, hbar⟩
  · rw [hempty]
    exact ⟨fun _ => .inl hempty, fun _ => Nat.zero_le 1⟩
  · have hends := typeOf_ends doc
    change (∀ c ∈ (documented template options d doc).declaredType.head?, _) ∧
      ∀ c ∈ (documented template options d doc).declaredType.getLast?, _ at hends
    rw [← hdeclared] at hends
    rw [length_words_le_one_iff hends.1 hends.2]
    constructor
    · intro h
      exact .inr ⟨hdeclared, hdeclared ▸ hwanted, hdeclared ▸ hbar, h⟩
    · rintro (hempty | ⟨-, -, -, h⟩)
      · simp [hempty]
      · exact h

end Member

theorem Body.exists_closeGaps_append_space {t : Text} (h : ' ' ∉ t) :
    ∃ pad, (pad = [] ∨ pad = [' ']) ∧ closeGaps (t ++ [' ']) = t ++ pad := by
  induction t with
  | nil => exact ⟨[' '], .inr rfl, rfl⟩
  | cons c t ih =>
    obtain ⟨-, ht⟩ := List.ne_and_not_mem_of_not_mem_cons h
    obtain ⟨pad, hpad, hclosed⟩ := ih ht
    cases t with
    | nil =>
      by_cases hc : c = '('
      · exact ⟨[], .inl rfl, by rw [hc]; rfl⟩
      · exact ⟨[' '], .inr rfl, closeGaps_cons (.inl hc)⟩
    | cons e t =>
      have he : e ≠ ' ' := Ne.symm (List.ne_and_not_mem_of_not_mem_cons ht).1
      refine ⟨pad, hpad, ?_⟩
      rw [List.cons_append, closeGaps_cons (.inr (by simpa using he)), hclosed, ← List.cons_append]

/-- In the setter of a standard template stand, between the parenthesis and the parameter, the words
of the hint and nothing else. -/
theorem Standard.exists_renderSetter_eq (s : Standard) (tabs : Bool) {m : Member}
    (h : ' ' ∉ m.hint.text) :
    ∃ opening list rest,
      (s.template.indented tabs).setter =
          opening ++ '(' :: (Placeholder.typeHint.mark ++ ' ' :: '$' :: rest) ∧
        m.renderSetter (s.template.indented tabs) =
          .ok (Body.closeGaps (m.filled opening) ++
            '(' :: (list ++ '$' :: Body.closeGaps (m.filled rest))) ∧
        words list = words m.hint.text := by
  obtain ⟨opening, rest, hcut⟩ := s.exists_cutByHint tabs
  obtain ⟨pad, hpad, hclosed⟩ :=
    @Body.exists_closeGaps_append_space ('(' :: m.hint.text) (by simpa using h)
  have hparts : m.filled (s.template.indented tabs).setter =
      m.filled opening ++ ('(' :: m.hint.text ++ [' '] ++ '$' :: m.filled rest) := by
    rw [hcut.filled_setter]
    simp
  have hrender : m.renderSetter (s.template.indented tabs) =
      .ok (Body.closeGaps (m.filled (s.template.indented tabs).setter)) :=
    Request.render_eq_ok (r := ⟨.setter, m⟩)
      (Template.validate_indented tabs s.validate_template)
  refine ⟨opening, m.hint.text ++ pad, rest, hcut.1, ?_, ?_⟩
  · rw [hrender, hparts, Body.closeGaps_append (by simp), Body.closeGaps_append (by simp), hclosed,
      Body.closeGaps_cons (.inl (by decide))]
    simp
  · rcases hpad with rfl | rfl
    · rw [List.append_nil]
    · rw [words_append_space (by decide)]
      exact List.append_nil _

/-- The hint of a member is empty or its declared type, wanted, and without spaces and bars. It is a
single type just if no line of the doc comment gives a type that is parted by other white space, and
only then the setter of a standard template has one word at most before its parameter. -/
theorem hint_is_single_type_iff (template : Template) (options : Options) (d : Declaration)
    (doc : Option Text) :
    ((Member.documented template options d doc).hint.text = [] ∨
      (Member.documented template options d doc).hint.text =
          (Member.documented template options d doc).declaredType ∧
        (Member.documented template options d doc).declaredType ∉ options.hintIgnore ∧
        ' ' ∉ (Member.documented template options d doc).declaredType ∧
        '|' ∉ (Member.documented template options d doc).declaredType) ∧
    ((Member.documented template options d doc).HintsSingleType options ↔
      ¬∃ text type, doc = some text ∧ DocComment.GivesTag "var" text type ∧
        TypeHint.Slips options.hintIgnore type) ∧
    ∀ (s : Standard) (tabs : Bool), ∃ opening list rest,
      (s.template.indented tabs).setter =
          opening ++ '(' :: (Placeholder.typeHint.mark ++ ' ' :: '$' :: rest) ∧
        (Member.documented template options d doc).renderSetter (s.template.indented tabs) =
          .ok (Body.closeGaps ((Member.documented template options d doc).filled opening) ++ '(' ::
            (list ++ '$' ::
              Body.closeGaps ((Member.documented template options d doc).filled rest))) ∧
        ((words list).length ≤ 1 ↔
          (Member.documented template options d doc).HintsSingleType options) := by
  have hcases := @Member.hint_documented_cases template options d doc
  refine ⟨hcases.imp_left And.left, ?_, fun s tabs => ?_⟩
  · rw [Member.hintsSingleType_documented_iff, ← Member.slips_typeOf_iff]
    rfl
  · have hspace : ' ' ∉ (Member.documented template options d doc).hint.text := by
      rcases hcases with ⟨hempty, -⟩ | ⟨hdeclared, -, hspace, -⟩
      · rw [hempty]
        exact List.not_mem_nil
      · rwa [hdeclared]
    obtain ⟨opening, list, rest, hsetter, hrender, hwords⟩ := s.exists_renderSetter_eq tabs hspace
    refine ⟨opening, list, rest, hsetter, hrender, ?_⟩
    rw [hwords, Member.length_words_hint_iff]

/-- A member whose type is set off from an explanation by a tab. -/
def tabbedMember : Member :=
  .documented Standard.camelCase.template {} ⟨"id", .isPrivate, none, 1, "id"⟩
    (some " * @var int\tidentifier")

/-- The explanation passes for a part of the hint, and the parameter has two words before it. -/
theorem tabbedMember_hints_explanation :
    tabbedMember.hint.text = "int\tidentifier".toList ∧ ¬tabbedMember.HintsSingleType {} ∧
      tabbedMember.renderSetter Standard.camelCase.template =
        .ok ("\n    /**\n     * Sets the value of id.\n     *\n" ++
          "     * @param int\tidentifier $id the id\n     *\n     * @return void\n     */\n" ++
          "    private function _setId(int\tidentifier $id)\n    \x7b\n" ++
          "        $this->id = $id;\n    \x7d\n").toList := by
  have htext : tabbedMember.hint.text = "int\tidentifier".toList := by decide
  refine ⟨htext, ?_, by decide +kernel⟩
  rintro (hempty | ⟨-, -, -, hnone⟩)
  · rw [htext] at hempty
    cases hempty
  · rw [htext] at hnone
    exact absurd (hnone '\t' (by decide)) (by decide)

end Accessors

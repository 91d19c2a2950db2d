import Accessors.Proofs.QuotedFacts

/-!
# Doc comments line by line

A doc comment is read one line at a time, and what a line says does not depend on the marks of the
frame around it. So two comments one below the other say what they say alone, where the tags of
the lower one count, and no drawing of the frame makes a difference. What is left of a line as prose
has neither marks in front nor a period at its end.
-/

namespace Accessors

open Text

namespace DocLine

/-- Marks of the frame around a line do not change what it says. -/
theorem read_append {a b : Text} (ha : ∀ c ∈ a, isFrame c = true) (hb : ∀ c ∈ b, isFrame c = true)
    (line : Text) : read (a ++ line ++ b) = read line := by
  rw [read, strip, trimBy_append ha hb, ← strip, ← read]

theorem newline_notMem_of_isFrame {a : Text} (ha : ∀ c ∈ a, isFrame c = true) : '\n' ∉ a := by
  intro h
  exact absurd (ha _ h) (by decide)

/-- A line of prose: something that begins neither like a tag nor with a mark of the frame and does
not end in a period. -/
structure IsProse (l : Text) : Prop where
  ne_nil : l ≠ []
  first : ∀ c ∈ l.head?, c ≠ '@' ∧ isFrame c = false
  last : l.getLast? ≠ some '.'

theorem getLast?_strip (line : Text) : (strip line).getLast? ≠ some '.' := by
  obtain ⟨-, -, -, hlast⟩ := exists_dropTrailing_append (· == '.') (trimBy isFrame line)
  intro hperiod
  exact absurd (hlast '.' hperiod) (by simp)

theorem isProse_of_prose? {line p : Text} (h : (read line).prose? = some p) : IsProse p := by
  obtain rfl := eq_strip_of_prose? h
  refine ⟨?_, ?_, getLast?_strip line⟩
  · intro hnil
    rw [read, hnil] at h
    cases h
  · intro c hc
    refine ⟨?_, isFrame_head?_strip hc⟩
    rintro rfl
    obtain ⟨rest, hrest⟩ := List.head?_eq_some_iff.mp hc
    rw [read, hrest, ofStripped] at h
    cases htag : tag? rest with
    | none => simp [htag, prose?] at h
    | some found => simp [htag, prose?] at h

end DocLine

namespace DocComment

theorem find?_tags_append (a b k : Text) :
    (parse (a ++ '\n' :: b)).tags.find? k =
      ((parse b).tags.find? k).or ((parse a).tags.find? k) := by
  rw [find?_tags, find?_tags, find?_tags, lines_append_newline, List.map_append,
    List.reverse_append, List.findSome?_append]

theorem prose_append (a b : Text) : prose (a ++ '\n' :: b) = prose a ++ prose b := by
  rw [prose, lines_append_newline, List.map_append, List.filterMap_append]
  rfl

theorem isProse_of_mem_prose {t p : Text} (h : p ∈ prose t) : DocLine.IsProse p := by
  obtain ⟨read, hread, hp⟩ := List.mem_filterMap.mp h
  obtain ⟨line, -, rfl⟩ := List.mem_map.mp hread
  exact DocLine.isProse_of_prose? hp

/-- A comment has a description if it has prose. -/
theorem description_eq_nil_iff {t : Text} : (parse t).description = [] ↔ prose t = [] := by
  constructor
  · intro h
    cases hprose : prose t with
    | nil => rfl
    | cons p ps =>
      have hp : p ∈ prose t := by simp [hprose]
      obtain ⟨a, b, hab⟩ : ∃ a b, (parse t).description = a ++ p ++ b :=
        exists_joinWith_eq_append hp
      rw [h] at hab
      simp only [List.nil_eq, List.append_eq_nil_iff] at hab
      exact absurd hab.1.2 (isProse_of_mem_prose hp).ne_nil
  · intro h
    change joinWith ['\n'] (prose t) = []
    rw [h]
    rfl

def joinDescriptions (a b : Text) : Text :=
  if a = [] then b else if b = [] then a else a ++ '\n' :: b

theorem description_append (a b : Text) :
    (parse (a ++ '\n' :: b)).description =
      joinDescriptions (parse a).description (parse b).description := by
  have hdescription : ∀ t, (parse t).description = joinWith ['\n'] (prose t) := fun _ => rfl
  rw [joinDescriptions]
  split
  · next ha =>
    rw [hdescription, hdescription, prose_append, description_eq_nil_iff.mp ha, List.nil_append]
  · next ha =>
    split
    · next hb =>
      rw [hdescription, hdescription, prose_append, description_eq_nil_iff.mp hb, List.append_nil]
    · next hb =>
      rw [description_eq_nil_iff] at ha hb
      rw [hdescription, hdescription, hdescription, prose_append, joinWith_append _ ha hb]
      rfl

/-- A text with `left i` in front of line `i` and `right i` behind it. -/
def framed (left right : Nat → Text) (t : Text) : Text :=
  joinWith ['\n'] ((lines t).mapIdx fun i line => left i ++ line ++ right i)

theorem parse_framed {left right : Nat → Text} (hleft : ∀ i, ∀ c ∈ left i, DocLine.isFrame c = true)
    (hright : ∀ i, ∀ c ∈ right i, DocLine.isFrame c = true) (t : Text) :
    parse (framed left right t) = parse t := by
  have hlines : lines (framed left right t) =
      (lines t).mapIdx fun i line => left i ++ line ++ right i := by
    apply lines_joinWith
    · intro l hl
      obtain ⟨i, hi, rfl⟩ := List.mem_mapIdx.mp hl
      have hline := newline_notMem_of_mem_lines (List.getElem_mem hi)
      simp [hline, DocLine.newline_notMem_of_isFrame (hleft i),
        DocLine.newline_notMem_of_isFrame (hright i)]
    · simpa using lines_ne_nil t
  have hread : (lines (framed left right t)).map DocLine.read = (lines t).map DocLine.read := by
    rw [hlines]
    apply List.ext_getElem (by simp)
    intro i hi hi'
    rw [List.getElem_map, List.getElem_mapIdx, List.getElem_map,
      DocLine.read_append (hleft i) (hright i)]
  rw [parse, hread, parse]

theorem isProse_of_mem_lines {t l : Text} (h : (parse t).description ≠ [])
    (hl : l ∈ lines (parse t).description) : DocLine.IsProse l := by
  rw [lines_description (by simpa [hasDescription] using h)] at hl
  exact isProse_of_mem_prose hl

/-- Of two comments one below the other, the tags of the lower one override those of the upper one
and the descriptions are joined. Marks of the frame around lines make no difference. Every line of a
description is one of prose. -/
theorem comments_read_line_by_line :
    (∀ a b : Text,
      (∀ k, (parse (a ++ '\n' :: b)).tags.find? k =
          ((parse b).tags.find? k).or ((parse a).tags.find? k)) ∧
        (parse (a ++ '\n' :: b)).description =
          joinDescriptions (parse a).description (parse b).description) ∧
      (∀ (t : Text) (left right : Nat → Text),
        (∀ i, ∀ c ∈ left i, DocLine.isFrame c = true) →
        (∀ i, ∀ c ∈ right i, DocLine.isFrame c = true) →
          parse (framed left right t) = parse t) ∧
      ∀ t : Text, (parse t).description ≠ [] →
        ∀ l ∈ lines (parse t).description, DocLine.IsProse l :=
  ⟨fun a b => ⟨find?_tags_append a b, description_append a b⟩,
    fun t _ _ hleft hright => parse_framed hleft hright t,
    fun _ hne _ hl => isProse_of_mem_lines hne hl⟩

def upperComment : Text := "Number of rows.\n@var int\n@since 2.0"

def lowerComment : Text := "@var string\nas read. "

theorem comments_read_line_by_line_below :
    (parse (upperComment ++ '\n' :: lowerComment)).tags.find? "var" = some "string".toList ∧
      (parse (upperComment ++ '\n' :: lowerComment)).tags.find? "since" = some "2.0".toList ∧
      (parse (upperComment ++ '\n' :: lowerComment)).description = "Number of rows\nas read" ∧
      parse (framed (fun _ => " * ") (fun _ => "\r") upperComment) = parse upperComment ∧
      (parse upperComment).description ≠ [] ∧
      ∀ l ∈ lines (parse upperComment).description, DocLine.IsProse l := by
  obtain ⟨hcompose, hframed, hprose⟩ := comments_read_line_by_line
  obtain ⟨htags, hdescription⟩ := hcompose upperComment lowerComment
  have hne : (parse upperComment).description ≠ [] := by decide
  refine ⟨?_, ?_, ?_, ?_, hne, hprose upperComment hne⟩
  · rw [htags]
    decide
  · rw [htags]
    decide
  · rw [hdescription]
    decide
  · apply hframed
    · exact fun _ => List.all_eq_true.mp rfl
    · exact fun _ => List.all_eq_true.mp rfl

end DocComment

end Accessors

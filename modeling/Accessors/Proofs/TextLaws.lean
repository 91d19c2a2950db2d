import Accessors.Text.Basic
import Mathlib.Data.List.Basic
import Mathlib.Data.List.TakeWhile

/-!
# Laws of lines, trimming and byte lengths

Cutting a text at a character is undone by joining, and cutting two texts put together merges
the last piece of the one with the first piece of the other. A trimmed text is the part between
the white space at both ends, which determines it.
-/

namespace Accessors

namespace Text

theorem pieces_eq_splitOn (c : Char) (t : Text) : pieces c t = t.splitOn c := by
  induction t with
  | nil => rfl
  | cons d t ih =>
    rw [pieces, List.splitOn_cons_eq_if_modifyHead, ih]
    by_cases hd : d = c
    · simp [hd]
    · obtain ⟨p, ps, hps⟩ := List.exists_cons_of_ne_nil (List.splitOn_ne_nil c t)
      simp [hd, hps]

theorem pieces_ne_nil (c : Char) (t : Text) : pieces c t ≠ [] := by
  rw [pieces_eq_splitOn]
  exact List.splitOn_ne_nil c t

theorem joinWith_pieces (c : Char) (t : Text) : joinWith [c] (pieces c t) = t := by
  rw [pieces_eq_splitOn]
  exact List.intercalate_splitOn c

theorem pieces_joinWith {c : Char} {ts : List Text} (h : ∀ t ∈ ts, c ∉ t) (hne : ts ≠ []) :
    pieces c (joinWith [c] ts) = ts := by
  rw [pieces_eq_splitOn]
  exact List.splitOn_intercalate c h hne

theorem lines_ne_nil (t : Text) : lines t ≠ [] :=
  pieces_ne_nil '\n' t

theorem joinWith_lines (t : Text) : joinWith ['\n'] (lines t) = t :=
  joinWith_pieces '\n' t

theorem lines_joinWith {ts : List Text} (h : ∀ t ∈ ts, '\n' ∉ t) (hne : ts ≠ []) :
    lines (joinWith ['\n'] ts) = ts :=
  pieces_joinWith h hne

theorem notMem_of_mem_splitOn {α : Type} [DecidableEq α] {x : α} {xs l : List α}
    (h : l ∈ xs.splitOn x) : x ∉ l := by
  induction xs generalizing l with
  | nil => simp_all
  | cons y xs ih =>
    obtain ⟨p, ps, hps⟩ := List.exists_cons_of_ne_nil (List.splitOn_ne_nil x xs)
    simp only [List.splitOn_cons_eq_if_modifyHead, hps, beq_iff_eq] at h
    rw [hps] at ih
    have hp := @ih p List.mem_cons_self
    split at h
    · rcases List.mem_cons.mp h with rfl | h
      · exact List.not_mem_nil
      · exact ih h
    · next hy =>
      rcases List.mem_cons.mp h with rfl | h
      · simp [Ne.symm hy, hp]
      · exact ih (List.mem_cons_of_mem p h)

theorem newline_notMem_of_mem_lines {t l : Text} (h : l ∈ lines t) : '\n' ∉ l := by
  rw [lines, pieces_eq_splitOn] at h
  exact notMem_of_mem_splitOn h

theorem flatMap_intercalate {α : Type} (f : α → Text) (x : α) (ls : List (List α)) :
    ([x].intercalate ls).flatMap f = joinWith (f x) (ls.map (·.flatMap f)) := by
  induction ls with
  | nil => rfl
  | cons l ls ih =>
    cases ls with
    | nil => simp [joinWith]
    | cons l' ls =>
      rw [List.intercalate_cons_cons, List.flatMap_append, ih]
      simp [joinWith]

theorem exists_joinWith_eq_append {sep t : Text} {ts : List Text} (h : t ∈ ts) :
    ∃ a b, joinWith sep ts = a ++ t ++ b := by
  induction ts with
  | nil => cases h
  | cons u ts ih =>
    cases ts with
    | nil => exact ⟨[], [], by simp [joinWith, List.mem_singleton.mp h]⟩
    | cons u' ts =>
      rw [joinWith, List.intercalate_cons_cons]
      rcases List.mem_cons.mp h with rfl | h
      · exact ⟨[], sep ++ sep.intercalate (u' :: ts), by simp⟩
      · obtain ⟨a, b, hab⟩ := ih h
        rw [joinWith] at hab
        exact ⟨u ++ sep ++ a, b, by rw [hab]; simp⟩

theorem mem_of_mem_intercalate {α : Type} {sep : List α} {ls : List (List α)} {x : α}
    (hx : x ∈ sep.intercalate ls) : x ∈ sep ∨ ∃ l ∈ ls, x ∈ l := by
  induction ls with
  | nil => cases hx
  | cons l ls ih =>
    cases ls with
    | nil => exact .inr ⟨l, List.mem_cons_self, by simpa using hx⟩
    | cons l' ls =>
      rw [List.intercalate_cons_cons, List.mem_append, List.mem_append] at hx
      rcases hx with (hx | hx) | hx
      · exact .inr ⟨l, List.mem_cons_self, hx⟩
      · exact .inl hx
      · refine (ih hx).imp_right fun ⟨u, hu, hxu⟩ => ?_
        exact ⟨u, List.mem_cons_of_mem l hu, hxu⟩

theorem joinWith_append (sep : Text) {ts us : List Text} (hts : ts ≠ []) (hus : us ≠ []) :
    joinWith sep (ts ++ us) = joinWith sep ts ++ (sep ++ joinWith sep us) := by
  induction ts with
  | nil => exact absurd rfl hts
  | cons t ts ih =>
    cases ts with
    | nil =>
      rw [List.singleton_append, joinWith, List.intercalate_cons_of_ne_nil hus]
      simp [joinWith]
    | cons t' ts =>
      have hrest := ih (List.cons_ne_nil t' ts)
      simp only [joinWith, List.cons_append, List.intercalate_cons_cons] at hrest ⊢
      rw [hrest]
      simp

theorem joinWith_append_joinWith (sep p q : Text) (ps qs : List Text) :
    joinWith sep (ps ++ [p]) ++ joinWith sep (q :: qs) = joinWith sep (ps ++ (p ++ q) :: qs) := by
  induction ps with
  | nil => cases qs <;> simp [joinWith]
  | cons r ps ih =>
    have hcons : ∀ {us : List Text}, us ≠ [] →
        joinWith sep (r :: us) = r ++ sep ++ joinWith sep us :=
      fun hne => List.intercalate_cons_of_ne_nil hne
    rw [List.cons_append, List.cons_append, hcons (by simp), hcons (by simp), List.append_assoc, ih]

/-- The last line of `a` and the first of `b` become one. -/
theorem lines_append {a b p q : Text} {ps qs : List Text} (ha : lines a = ps ++ [p])
    (hb : lines b = q :: qs) : lines (a ++ b) = ps ++ (p ++ q) :: qs := by
  have hps : ∀ t ∈ ps ++ [p], '\n' ∉ t := fun t ht => newline_notMem_of_mem_lines (ha ▸ ht)
  have hqs : ∀ t ∈ q :: qs, '\n' ∉ t := fun t ht => newline_notMem_of_mem_lines (hb ▸ ht)
  rw [← joinWith_lines a, ← joinWith_lines b, ha, hb, joinWith_append_joinWith]
  apply lines_joinWith _ (by simp)
  simp only [List.forall_mem_append, List.forall_mem_cons] at hps hqs ⊢
  exact ⟨hps.1, by simpa using ⟨hps.2.1, hqs.1⟩, hqs.2⟩

theorem exists_lines_eq_append (t : Text) : ∃ ps p, lines t = ps ++ [p] :=
  ⟨_, _, (List.dropLast_append_getLast (lines_ne_nil t)).symm⟩

theorem lines_append_newline (a b : Text) : lines (a ++ '\n' :: b) = lines a ++ lines b := by
  obtain ⟨ps, p, hp⟩ := exists_lines_eq_append a
  have hb : lines ('\n' :: b) = [] :: lines b := rfl
  rw [lines_append hp hb, hp]
  simp

theorem lines_joinWith_eq_flatMap {ts : List Text} (h : ts ≠ []) :
    lines (joinWith ['\n'] ts) = ts.flatMap lines := by
  induction ts with
  | nil => exact absurd rfl h
  | cons t ts ih =>
    cases ts with
    | nil => simp [joinWith]
    | cons u ts =>
      rw [joinWith, List.intercalate_cons_cons, List.append_assoc, List.singleton_append,
        lines_append_newline, ← joinWith, ih (List.cons_ne_nil u ts)]
      rfl

theorem lines_eq_singleton {t : Text} (h : '\n' ∉ t) : lines t = [t] := by
  have hlines : lines (joinWith ['\n'] [t]) = [t] := lines_joinWith (by simpa using h) (by simp)
  simpa [joinWith] using hlines

/-- The lines of two texts put together, if the first ends with a line feed or is empty. -/
theorem lines_append_of_last {a b : Text} (h : (lines a).getLast? = some []) :
    lines (a ++ b) = (lines a).dropLast ++ lines b := by
  obtain ⟨ps, hps⟩ := List.getLast?_eq_some_iff.mp h
  obtain ⟨q, qs, hqs⟩ := List.exists_cons_of_ne_nil (lines_ne_nil b)
  rw [lines_append hps hqs, hps, hqs]
  simp

theorem forall_mem_lines_flatMap {α : Type} {f : α → Text} {xs : List α} {P : Text → Prop}
    (hnil : P []) (hlast : ∀ x ∈ xs, (lines (f x)).getLast? = some []) :
    (∀ l ∈ lines (xs.flatMap f), P l) ↔ ∀ x ∈ xs, ∀ l ∈ lines (f x), P l := by
  induction xs with
  | nil => simpa [lines, pieces] using hnil
  | cons x xs ih =>
    obtain ⟨hx, hxs⟩ := List.forall_mem_cons.mp hlast
    obtain ⟨ps, hps⟩ := List.getLast?_eq_some_iff.mp hx
    rw [List.flatMap_cons, lines_append_of_last hx, List.forall_mem_append, ih hxs,
      List.forall_mem_cons, hps, List.dropLast_concat, List.forall_mem_append]
    simp [hnil]

theorem byteLength_append (a b : Text) : byteLength (a ++ b) = byteLength a + byteLength b := by
  induction a with
  | nil => exact (Nat.zero_add _).symm
  | cons c a ih => rw [List.cons_append, byteLength, byteLength, ih, Nat.add_assoc]

theorem byteLength_pos {t : Text} (h : t ≠ []) : 0 < byteLength t := by
  cases t with
  | nil => exact absurd rfl h
  | cons c t =>
    have hc := Char.utf8Size_pos c
    rw [byteLength]
    omega

theorem cutAtByte?_append (a b : Text) : cutAtByte? (byteLength a) (a ++ b) = some (a, b) := by
  induction a with
  | nil => cases b <;> rfl
  | cons c a ih =>
    have hc := Char.utf8Size_pos c
    rw [List.cons_append, cutAtByte?, byteLength, if_neg (by omega), if_neg (by omega),
      Nat.add_sub_cancel_left, ih]
    rfl

/-- The number of bytes up to the end of line `k`, counted from one. -/
def endOfLine (t : Text) (k : Nat) : Nat :=
  byteLength (joinWith ['\n'] ((lines t).take k))

/-- A line that ends before a place inside a line is an earlier one. -/
theorem le_of_endOfLine_le {a b p q : Text} {ps qs : List Text} {k : Nat}
    (ha : lines a = ps ++ [p]) (hb : lines b = q :: qs) (hq : q ≠ [])
    (h : endOfLine (a ++ b) k ≤ byteLength a) : k ≤ ps.length := by
  by_contra hk
  obtain ⟨j, hj⟩ : ∃ j, k = ps.length + (j + 1) := ⟨k - ps.length - 1, by omega⟩
  have htake : (lines (a ++ b)).take k = ps ++ (p ++ q) :: qs.take j := by
    rw [lines_append ha hb, hj, List.take_length_add_append, List.take_succ_cons]
  have hsplit : joinWith ['\n'] ((lines (a ++ b)).take k) =
      a ++ joinWith ['\n'] (q :: qs.take j) := by
    rw [htake, ← joinWith_append_joinWith, ← ha, joinWith_lines]
  have hpos : 0 < byteLength (joinWith ['\n'] (q :: qs.take j)) := by
    apply byteLength_pos
    obtain ⟨c, q', rfl⟩ := List.exists_cons_of_ne_nil hq
    simp [joinWith]
  rw [endOfLine, hsplit, byteLength_append] at h
  omega

theorem head?_dropWhile_eq_false {p : Char → Bool} {t : Text} {c : Char}
    (h : c ∈ (t.dropWhile p).head?) : p c = false := by
  have hn := List.head?_dropWhile_not p t
  rw [Option.mem_def.mp h] at hn
  simpa using hn

theorem dropTrailing_append_of_pos {p : Char → Bool} {t w : Text} (h : ∀ c ∈ w, p c) :
    dropTrailing p (t ++ w) = dropTrailing p t := by
  have hw : ∀ c ∈ w.reverse, p c := fun c hc => h c (List.mem_reverse.mp hc)
  rw [dropTrailing, dropTrailing, List.reverse_append, List.dropWhile_append_of_pos hw]

theorem dropTrailing_eq_self {p : Char → Bool} {t : Text} (h : ∀ c ∈ t.getLast?, p c = false) :
    dropTrailing p t = t := by
  rw [dropTrailing, List.reverse_eq_iff]
  cases ht : t.reverse with
  | nil => rfl
  | cons c r =>
    have hc : p c = false := h c (by rw [← List.head?_reverse, ht]; rfl)
    rw [List.dropWhile_cons_of_neg (by simp [hc])]

theorem exists_dropTrailing_append (p : Char → Bool) (t : Text) :
    ∃ w, t = dropTrailing p t ++ w ∧ (∀ c ∈ w, p c) ∧
      ∀ c ∈ (dropTrailing p t).getLast?, p c = false := by
  refine ⟨(t.reverse.takeWhile p).reverse, ?_, ?_, ?_⟩
  · rw [dropTrailing, ← List.reverse_append, List.takeWhile_append_dropWhile, List.reverse_reverse]
  · intro c hc
    exact List.mem_takeWhile_imp (List.mem_reverse.mp hc)
  · intro c hc
    rw [dropTrailing, List.getLast?_reverse] at hc
    exact head?_dropWhile_eq_false hc

theorem trimBy_eq_of_parts {p : Char → Bool} {a k b : Text} (ha : ∀ c ∈ a, p c) (hb : ∀ c ∈ b, p c)
    (hfirst : ∀ c ∈ k.head?, p c = false) (hlast : ∀ c ∈ k.getLast?, p c = false) :
    trimBy p (a ++ k ++ b) = k := by
  rw [trimBy, List.append_assoc, List.dropWhile_append_of_pos ha]
  cases k with
  | nil => rw [List.nil_append, List.dropWhile_eq_nil_iff.mpr hb]; rfl
  | cons c k =>
    rw [List.cons_append, List.dropWhile_cons_of_neg (by simp [hfirst c rfl]), ← List.cons_append,
      dropTrailing_append_of_pos hb, dropTrailing_eq_self hlast]

theorem trim_eq_of_parts {a k b : Text} (ha : ∀ c ∈ a, isSpace c) (hb : ∀ c ∈ b, isSpace c)
    (hfirst : ∀ c ∈ k.head?, isSpace c = false) (hlast : ∀ c ∈ k.getLast?, isSpace c = false) :
    trim (a ++ k ++ b) = k :=
  trimBy_eq_of_parts ha hb hfirst hlast

/-- A text is what trimming leaves with what was trimmed on both sides. -/
theorem exists_trimBy_append (p : Char → Bool) (t : Text) :
    ∃ a b, t = a ++ trimBy p t ++ b ∧ (∀ c ∈ a, p c) ∧ (∀ c ∈ b, p c) ∧
      (∀ c ∈ (trimBy p t).head?, p c = false) ∧ ∀ c ∈ (trimBy p t).getLast?, p c = false := by
  obtain ⟨w, ht, hw, hlast⟩ := exists_dropTrailing_append p (t.dropWhile p)
  refine ⟨t.takeWhile p, w, ?_, fun c hc => List.mem_takeWhile_imp hc, hw, ?_, hlast⟩
  · rw [trimBy, List.append_assoc, ← ht, List.takeWhile_append_dropWhile]
  · intro c hc
    apply head?_dropWhile_eq_false (t := t)
    rw [ht]
    rw [trimBy] at hc
    exact List.mem_head?_append_of_mem_head? hc

/-- What is trimmed anyway may be added on both sides. -/
theorem trimBy_append {p : Char → Bool} {a b : Text} (ha : ∀ c ∈ a, p c) (hb : ∀ c ∈ b, p c)
    (t : Text) : trimBy p (a ++ t ++ b) = trimBy p t := by
  obtain ⟨a', b', ht, ha', hb', hfirst, hlast⟩ := exists_trimBy_append p t
  generalize trimBy p t = k at ht hfirst hlast
  have hsplit : a ++ t ++ b = (a ++ a') ++ k ++ (b' ++ b) := by
    rw [ht]
    simp
  rw [hsplit]
  apply trimBy_eq_of_parts _ _ hfirst hlast
  · exact List.forall_mem_append.mpr ⟨ha, ha'⟩
  · exact List.forall_mem_append.mpr ⟨hb', hb⟩

theorem exists_trim_append (t : Text) :
    ∃ a b, t = a ++ trim t ++ b ∧ (∀ c ∈ a, isSpace c) ∧ (∀ c ∈ b, isSpace c) ∧
      (∀ c ∈ (trim t).head?, isSpace c = false) ∧
      ∀ c ∈ (trim t).getLast?, isSpace c = false :=
  exists_trimBy_append isSpace t

theorem lookup_cons {α : Type} (k j : Text) (a : α) (l : List (Text × α)) :
    ((k, a) :: l).lookup j = if j = k then some a else l.lookup j := by
  rw [List.lookup_cons]
  by_cases h : j = k
  · simp [h]
  · simp [h, beq_eq_false_iff_ne.mpr h]

end Text

end Accessors

import Accessors.Generation.Batch
import Accessors.Proofs.TextLaws

/-!
# Filling template bodies

A valid template can be filled for every member, and so can the same template indented with
tabs: tabs change neither the braces that bound a hole nor, up to white space, the key in it.
-/

namespace Accessors

def Piece.filled (values : Text → Option Text) : Piece → Text
  | char c => [c]
  | hole inner => (values (Text.trim inner)).getD []

namespace Body

theorem fillPieces_eq_ok {values : Text → Option Text} {ps : List Piece}
    (h : ∀ k ∈ ps.filterMap Piece.key?, (values k).isSome) :
    fillPieces values ps = .ok (ps.flatMap (Piece.filled values)) := by
  induction ps with
  | nil => rfl
  | cons p ps ih =>
    cases p with
    | char c =>
      rw [fillPieces, ih (by simpa [Piece.key?] using h)]
      rfl
    | hole inner =>
      simp only [List.filterMap_cons, Piece.key?, List.forall_mem_cons] at h
      obtain ⟨v, hv⟩ := Option.isSome_iff_exists.mp h.1
      rw [fillPieces, hv, ih h.2]
      simp [Except.map, Piece.filled, hv]

theorem piecesAfter_eq (n : Nat) (t : Text) : piecesAfter n t = pieces (t.drop n) := by
  induction n generalizing t with
  | zero => rfl
  | succ n ih =>
    cases t with
    | nil => rfl
    | cons c t =>
      rw [piecesAfter, ih]
      rfl

theorem pieces_cons_char {c : Char} {t : Text} (h : hole? (c :: t) = none) :
    pieces (c :: t) = .char c :: pieces t := by
  rw [pieces, piecesAfter, h]
  rfl

theorem pieces_cons_hole {c : Char} {t inner : Text} (h : hole? (c :: t) = some inner) :
    pieces (c :: t) = .hole inner :: pieces (t.drop (inner.length + 3)) := by
  rw [pieces, piecesAfter, h, ← piecesAfter_eq]

theorem keys_cons_char {c : Char} {t : Text} (h : hole? (c :: t) = none) :
    keys (c :: t) = keys t := by
  rw [keys, pieces_cons_char h]
  rfl

theorem keys_cons_hole {inner rest : Text}
    (h : hole? ('\x7b' :: '\x7b' :: (inner ++ '\x7d' :: '\x7d' :: rest)) = some inner) :
    keys ('\x7b' :: '\x7b' :: (inner ++ '\x7d' :: '\x7d' :: rest)) =
      Text.trim inner :: keys rest := by
  have hdrop : ('\x7b' :: (inner ++ '\x7d' :: '\x7d' :: rest)).drop (inner.length + 3) = rest := by
    rw [List.drop_succ_cons, List.drop_append]
    simp
  rw [keys, pieces_cons_hole h, hdrop]
  rfl

theorem hole?_eq_some {t inner : Text} (h : hole? t = some inner) :
    ∃ rest, t = '\x7b' :: '\x7b' :: (inner ++ '\x7d' :: '\x7d' :: rest) := by
  unfold hole? at h
  split at h
  · next u =>
    split at h
    · next rest hr =>
      cases h
      refine ⟨rest, ?_⟩
      rw [← hr, List.takeWhile_append_dropWhile]
    · cases h
  · cases h

@[simp] theorem tabbed_nil : tabbed [] = [] := rfl

theorem tabbed_append_cons {c : Char} (hc : c ≠ ' ') (a b : Text) :
    tabbed (a ++ c :: b) = tabbed a ++ c :: tabbed b := by
  fun_induction tabbed a with
  | case1 t ih => simp [tabbed, ih]
  | case2 d t hne ih =>
    have hne' : ∀ u, d = ' ' → t ++ c :: b = ' ' :: ' ' :: ' ' :: u → False := by
      intro u hd hu
      match t with
      | [] => simp_all
      | [_] => simp_all
      | [_, _] => simp_all
      | x :: y :: z :: t =>
        simp only [List.cons_append, List.cons.injEq] at hu
        exact hne t hd (by rw [hu.1, hu.2.1, hu.2.2.1])
    rw [List.cons_append, tabbed.eq_2 _ _ hne', ih]
    rfl
  | case3 =>
    rw [List.nil_append, tabbed.eq_2 _ _ fun _ h _ => hc h]
    rfl

theorem tabbed_cons {c : Char} (hc : c ≠ ' ') (t : Text) : tabbed (c :: t) = c :: tabbed t :=
  tabbed_append_cons hc [] t

theorem tabbed_append_of_head {a b : Text} (h : ∀ c ∈ b.head?, c ≠ ' ') :
    tabbed (a ++ b) = tabbed a ++ tabbed b := by
  cases b with
  | nil => simp
  | cons c b =>
    have hc := h c rfl
    rw [tabbed_append_cons hc, tabbed_cons hc]

theorem tabbed_append_of_last {a b : Text} (h : ∀ c ∈ a.getLast?, c ≠ ' ') :
    tabbed (a ++ b) = tabbed a ++ tabbed b := by
  rcases List.eq_nil_or_concat a with rfl | ⟨a, c, rfl⟩
  · rfl
  · have hc : c ≠ ' ' := h c (by simp)
    rw [List.concat_eq_append, List.append_assoc, List.singleton_append, tabbed_append_cons hc,
      tabbed_append_cons hc]
    simp

theorem mem_tabbed {c : Char} {t : Text} (h : c ∈ tabbed t) : c ∈ t ∨ c = '\t' := by
  fun_induction tabbed t with
  | case1 t ih =>
    rcases List.mem_cons.mp h with h | h
    · exact .inr h
    · exact (ih h).imp_left fun hm => by simp [hm]
  | case2 d t hne ih =>
    rcases List.mem_cons.mp h with h | h
    · exact .inl (h ▸ List.mem_cons_self)
    · exact (ih h).imp_left (List.mem_cons_of_mem d)
  | case3 => cases h

/-- Without a tab in it, a text with tabs for spaces had no four spaces to replace. -/
theorem tabbed_eq_self {t : Text} (h : '\t' ∉ tabbed t) : tabbed t = t := by
  fun_induction tabbed t with
  | case1 t ih => exact absurd List.mem_cons_self h
  | case2 d t hne ih => rw [ih (List.not_mem_of_not_mem_cons h)]
  | case3 => rfl

theorem tabbed_eq_self_of_space_notMem {t : Text} (h : ' ' ∉ t) : tabbed t = t := by
  fun_induction tabbed t with
  | case1 t ih => exact absurd List.mem_cons_self h
  | case2 d t hne ih => rw [ih (List.not_mem_of_not_mem_cons h)]
  | case3 => rfl

/-- Tabs do not move the next brace. -/
theorem span_tabbed (t : Text) :
    (tabbed t).takeWhile (!isBrace ·) = tabbed (t.takeWhile (!isBrace ·)) ∧
      (tabbed t).dropWhile (!isBrace ·) = tabbed (t.dropWhile (!isBrace ·)) := by
  have htake : ∀ c ∈ tabbed (t.takeWhile (!isBrace ·)), (!isBrace c) = true := by
    intro c hc
    rcases mem_tabbed hc with hc | rfl
    · exact List.mem_takeWhile_imp (p := (!isBrace ·)) hc
    · decide
  have hbrace : ∀ c ∈ (t.dropWhile (!isBrace ·)).head?, isBrace c = true := by
    intro c hc
    simpa using Text.head?_dropWhile_eq_false (p := (!isBrace ·)) hc
  have hspace : ∀ c ∈ (t.dropWhile (!isBrace ·)).head?, c ≠ ' ' := by
    rintro c hc rfl
    exact absurd (hbrace _ hc) (by decide)
  have ht : tabbed t =
      tabbed (t.takeWhile (!isBrace ·)) ++ tabbed (t.dropWhile (!isBrace ·)) := by
    rw [← tabbed_append_of_head hspace, List.takeWhile_append_dropWhile]
  rw [ht, List.takeWhile_append_of_pos htake, List.dropWhile_append_of_pos htake]
  cases hd : t.dropWhile (!isBrace ·) with
  | nil => simp
  | cons c r =>
    rw [hd] at hbrace hspace
    rw [tabbed_cons (hspace c rfl), List.takeWhile_cons_of_neg (by simp [hbrace c rfl]),
      List.dropWhile_cons_of_neg (by simp [hbrace c rfl])]
    simp

theorem hole?_eq_none_of_first {c : Char} (hc : c ≠ '\x7b') (t : Text) : hole? (c :: t) = none := by
  rw [hole?.eq_2]
  intro u h
  exact hc (List.cons.inj h).1

theorem hole?_eq_none_of_second {c : Char} (hc : c ≠ '\x7b') (t : Text) :
    hole? ('\x7b' :: c :: t) = none := by
  rw [hole?.eq_2]
  intro u h
  exact hc (List.cons.inj (List.cons.inj h).2).1

/-- The first character of a text stays, unless it is a space that becomes part of a tab. -/
theorem exists_tabbed_cons (c : Char) (t : Text) :
    ∃ d u, tabbed (c :: t) = d :: u ∧ (d = c ∨ d = '\t') := by
  generalize ht : c :: t = s
  fun_cases tabbed s with
  | case1 u => exact ⟨'\t', tabbed u, rfl, .inr rfl⟩
  | case2 d u hne => exact ⟨d, tabbed u, rfl, .inl (List.cons.inj ht).1.symm⟩
  | case3 => cases ht

theorem hole?_eq_some_of_close {u r : Text}
    (h : u.dropWhile (!isBrace ·) = '\x7d' :: '\x7d' :: r) :
    hole? ('\x7b' :: '\x7b' :: u) = some (u.takeWhile (!isBrace ·)) := by
  rw [hole?, h]
  rfl

theorem hole?_eq_none_of_open {u : Text}
    (h : ¬∃ r, u.dropWhile (!isBrace ·) = '\x7d' :: '\x7d' :: r) :
    hole? ('\x7b' :: '\x7b' :: u) = none := by
  rw [hole?]
  split
  · next r hr => exact absurd ⟨r, hr⟩ h
  · rfl

theorem closes_of_tabbed {w : Text} (h : ∃ r, tabbed w = '\x7d' :: '\x7d' :: r) :
    ∃ r, w = '\x7d' :: '\x7d' :: r := by
  obtain ⟨r, hr⟩ := h
  match w with
  | [] => cases hr
  | c :: w =>
    obtain ⟨d, u, hd, hdc⟩ := exists_tabbed_cons c w
    obtain ⟨rfl, hu⟩ := List.cons.inj (hd.symm.trans hr)
    obtain rfl : '\x7d' = c := hdc.resolve_right (by decide)
    rw [tabbed_cons (by decide)] at hr
    match w with
    | [] => cases hr
    | e :: w =>
      obtain ⟨f, v, hf, hfe⟩ := exists_tabbed_cons e w
      rw [hf] at hr
      obtain ⟨rfl, -⟩ := List.cons.inj (List.cons.inj hr).2
      exact ⟨w, by rw [hfe.resolve_right (by decide)]⟩

theorem hole?_tabbed (t : Text) : hole? (tabbed t) = (hole? t).map tabbed := by
  cases t with
  | nil => rfl
  | cons x t =>
    by_cases hx : x = '\x7b'
    · subst hx
      rw [tabbed_cons (by decide)]
      cases t with
      | nil => rfl
      | cons y u =>
        by_cases hy : y = '\x7b'
        · subst hy
          rw [tabbed_cons (by decide)]
          by_cases hclose : ∃ r, u.dropWhile (!isBrace ·) = '\x7d' :: '\x7d' :: r
          · obtain ⟨r, hr⟩ := hclose
            have hr' : (tabbed u).dropWhile (!isBrace ·) = '\x7d' :: '\x7d' :: tabbed r := by
              rw [(span_tabbed u).2, hr, tabbed_cons (by decide), tabbed_cons (by decide)]
            rw [hole?_eq_some_of_close hr, hole?_eq_some_of_close hr', (span_tabbed u).1]
            rfl
          · have hopen : ¬∃ r, (tabbed u).dropWhile (!isBrace ·) = '\x7d' :: '\x7d' :: r := by
              rw [(span_tabbed u).2]
              exact fun h => hclose (closes_of_tabbed h)
            rw [hole?_eq_none_of_open hclose, hole?_eq_none_of_open hopen]
            rfl
        · obtain ⟨d, v, hd, hdy⟩ := exists_tabbed_cons y u
          have hd' : d ≠ '\x7b' := by
            rcases hdy with rfl | rfl
            · exact hy
            · decide
          rw [hd, hole?_eq_none_of_second hd', hole?_eq_none_of_second hy]
          rfl
    · obtain ⟨d, v, hd, hdx⟩ := exists_tabbed_cons x t
      have hd' : d ≠ '\x7b' := by
        rcases hdx with rfl | rfl
        · exact hx
        · decide
      rw [hd, hole?_eq_none_of_first hd', hole?_eq_none_of_first hx]
      rfl

/-- Tabs for spaces do not reach past the white space around a text. -/
theorem trim_tabbed (t : Text) : Text.trim (tabbed t) = tabbed (Text.trim t) := by
  obtain ⟨a, b, ht, ha, hb, hfirst, hlast⟩ := Text.exists_trim_append t
  have hspace : ∀ {w : Text}, (∀ c ∈ w, isSpace c) → ∀ c ∈ tabbed w, isSpace c := by
    intro w hw c hc
    rcases mem_tabbed hc with hc | rfl
    · exact hw c hc
    · decide
  have hne : ∀ {c : Char}, isSpace c = false → c ≠ ' ' := by
    rintro c hc rfl
    exact absurd hc (by decide)
  generalize Text.trim t = k at ht hfirst hlast ⊢
  subst ht
  rcases List.eq_nil_or_concat k with rfl | ⟨k, c, rfl⟩
  · have hall : ∀ c ∈ tabbed (a ++ [] ++ b), isSpace c :=
      hspace (by simpa using fun c => Or.rec (ha c) (hb c))
    have h := Text.trim_eq_of_parts (k := []) (b := []) hall (by simp) (by simp) (by simp)
    rw [List.append_nil, List.append_nil] at h
    rw [h, tabbed]
  · rw [List.concat_eq_append] at hfirst hlast ⊢
    have hc : isSpace c = false := hlast c (by simp)
    have hk : tabbed (a ++ (k ++ [c]) ++ b) = tabbed a ++ tabbed (k ++ [c]) ++ tabbed b := by
      rw [tabbed_append_of_last, tabbed_append_of_head fun d hd => hne (hfirst d hd)]
      simpa using hne hc
    rw [hk]
    refine Text.trim_eq_of_parts (hspace ha) (hspace hb) ?_ ?_
    · cases hd : k ++ [c] with
      | nil => simp at hd
      | cons d u =>
        rw [hd] at hfirst
        rw [tabbed_cons (hne (hfirst d rfl))]
        simpa using hfirst
    · rw [tabbed_append_cons (hne hc)]
      simpa [tabbed] using hc

/-- With tabs for spaces a body has the same holes, and tabs for spaces in their keys. -/
theorem keys_tabbed (body : Text) : keys (tabbed body) = (keys body).map tabbed := by
  induction hn : body.length using Nat.strong_induction_on generalizing body with
  | _ n ih =>
    have hole := hole?_tabbed body
    fun_cases tabbed body with
    | case1 t =>
      have hs : ∀ u, hole? (' ' :: u) = none := hole?_eq_none_of_first (by decide)
      have ht : hole? ('\t' :: tabbed t) = none := hole?_eq_none_of_first (by decide) _
      rw [keys_cons_char ht, keys_cons_char (hs _), keys_cons_char (hs _), keys_cons_char (hs _),
        keys_cons_char (hs _)]
      exact ih t.length (by simp at hn; omega) t rfl
    | case2 c t hne =>
      rw [tabbed.eq_2 _ _ hne] at hole
      cases h : hole? (c :: t) with
      | none =>
        rw [h] at hole
        rw [keys_cons_char h, keys_cons_char hole]
        exact ih t.length (by simp at hn; omega) t rfl
      | some inner =>
        rw [h] at hole
        obtain ⟨rest, hr⟩ := hole?_eq_some h
        obtain ⟨rfl, rfl⟩ := List.cons.inj hr
        have ht : tabbed ('\x7b' :: (inner ++ '\x7d' :: '\x7d' :: rest)) =
            '\x7b' :: (tabbed inner ++ '\x7d' :: '\x7d' :: tabbed rest) := by
          rw [tabbed_cons (by decide), tabbed_append_cons (by decide), tabbed_cons (by decide)]
        rw [ht] at hole ⊢
        rw [keys_cons_hole h, keys_cons_hole hole, List.map_cons, trim_tabbed]
        rw [ih rest.length (by simp at hn; omega) rest rfl]
    | case3 => rfl

end Body

namespace Placeholder

theorem blank_notMem_key (p : Placeholder) : ' ' ∉ p.key ∧ '\t' ∉ p.key := by
  cases p <;> decide

/-- No key holds a blank, so tabs make none and spoil none. -/
theorem ofKey?_tabbed (k : Text) : ofKey? (Body.tabbed k) = ofKey? k := by
  rw [ofKey?, ofKey?]
  congr 1
  funext p
  by_cases h : Body.tabbed k = k
  · rw [h]
  · have hk : p.key ≠ k := by
      rintro rfl
      exact h (Body.tabbed_eq_self_of_space_notMem p.blank_notMem_key.1)
    have ht : p.key ≠ Body.tabbed k := by
      intro hp
      exact h (Body.tabbed_eq_self (hp ▸ p.blank_notMem_key.2))
    rw [beq_eq_false_iff_ne.mpr hk, beq_eq_false_iff_ne.mpr ht]

end Placeholder

namespace Template

theorem validate_eq_ok_iff {t : Template} :
    t.validate = .ok () ↔
      ∀ k ∈ Body.keys t.getter ++ Body.keys t.setter, (Placeholder.ofKey? k).isSome := by
  have hmem : ∀ k, k ∈ t.keys ↔ k ∈ Body.keys t.getter ++ Body.keys t.setter := by
    intro k
    exact List.mem_eraseDups
  rw [validate]
  cases h : t.keys.find? fun k => (Placeholder.ofKey? k).isNone with
  | none =>
    rw [List.find?_eq_none] at h
    simpa [hmem, Option.isSome_iff_ne_none] using h
  | some k =>
    have hk := List.find?_some h
    have hm := (hmem k).mp (List.mem_of_find?_eq_some h)
    constructor
    · intro he
      cases he
    · intro he
      have := he k hm
      simp_all

/-- Tabs for spaces make no template valid and none invalid. -/
theorem validate_tabbed_eq_ok_iff {t : Template} :
    t.tabbed.validate = .ok () ↔ t.validate = .ok () := by
  rw [validate_eq_ok_iff, validate_eq_ok_iff, tabbed, Body.keys_tabbed, Body.keys_tabbed,
    ← List.map_append, List.forall_mem_map]
  simp only [Placeholder.ofKey?_tabbed]

/-- Indenting keeps a template valid. -/
theorem validate_indented {t : Template} (tabs : Bool) (h : t.validate = .ok ()) :
    (t.indented tabs).validate = .ok () := by
  cases tabs with
  | false => exact h
  | true => exact validate_tabbed_eq_ok_iff.mpr h

end Template

def Template.body (t : Template) : Accessor → Text
  | .getter => t.getter
  | .setter => t.setter

/-- The code for an accessor made of a filled body: a setter's gaps are closed. -/
def Accessor.finish : Accessor → Text → Text
  | getter, t => t
  | setter, t => Body.closeGaps t

def Member.filled (m : Member) (body : Text) : Text :=
  (Body.pieces body).flatMap (Piece.filled m.valueOfKey)

theorem Member.render_eq_ok {body : Text}
    (h : ∀ k ∈ Body.keys body, (Placeholder.ofKey? k).isSome) (m : Member) (name : Text) :
    Template.render name m.valueOfKey body = .ok (m.filled body) := by
  rw [Template.render, Body.fill, Body.fillPieces_eq_ok]
  · rfl
  · intro k hk
    simpa [Member.valueOfKey] using h k hk

namespace Request

def text (t : Template) (r : Request) : Text :=
  r.accessor.finish (r.member.filled (t.body r.accessor))

theorem render_of_known {t : Template} (r : Request)
    (h : ∀ k ∈ Body.keys (t.body r.accessor), (Placeholder.ofKey? k).isSome) :
    r.render t = .ok (r.text t) := by
  rw [render, text]
  cases hr : r.accessor with
  | getter =>
    rw [hr] at h
    exact Member.render_eq_ok h r.member t.name
  | setter =>
    rw [hr] at h
    simp only [Member.renderSetter]
    rw [@Member.render_eq_ok t.setter h]
    rfl

theorem render_eq_ok {t : Template} (r : Request) (h : t.validate = .ok ()) :
    r.render t = .ok (r.text t) := by
  rw [Template.validate_eq_ok_iff] at h
  apply r.render_of_known
  cases r.accessor with
  | getter => exact fun k hk => h k (List.mem_append_left _ hk)
  | setter => exact fun k hk => h k (List.mem_append_right _ hk)

end Request

end Accessors

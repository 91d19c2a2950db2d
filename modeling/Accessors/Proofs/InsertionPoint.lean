import Accessors.Source.Insertion
import Mathlib.Data.List.TakeWhile

/-!
# The place where new methods go

A source is cut right before its last closing brace, provided that an opening brace stands
somewhere before it. Code put there moves neither of the two, so the next code follows it.
-/

namespace Accessors

namespace Insertion

theorem cutAtLast?_eq_none_iff {c : Char} {t : Text} : cutAtLast? c t = none ↔ c ∉ t := by
  induction t with
  | nil => simp [cutAtLast?]
  | cons d t ih =>
    rw [cutAtLast?, List.mem_cons, not_or, ← ih]
    cases h : cutAtLast? c t with
    | some p => simp
    | none => simp [eq_comm]

theorem cutAtLast?_eq_some_iff {c : Char} {t before after : Text} :
    cutAtLast? c t = some (before, after) ↔
      ∃ rest, after = c :: rest ∧ t = before ++ c :: rest ∧ c ∉ rest := by
  induction t generalizing before with
  | nil => simp [cutAtLast?]
  | cons d t ih =>
    rw [cutAtLast?]
    constructor
    · intro h
      split at h
      · next b a hc =>
        obtain ⟨rfl, rfl⟩ := Prod.mk.inj (Option.some.inj h)
        obtain ⟨rest, rfl, rfl, hr⟩ := ih.mp hc
        exact ⟨rest, rfl, rfl, hr⟩
      · next hc =>
        split at h
        · next hd =>
          obtain ⟨rfl, rfl⟩ := Prod.mk.inj (Option.some.inj h)
          exact ⟨t, by rw [hd], by rw [hd]; rfl, cutAtLast?_eq_none_iff.mp hc⟩
        · cases h
    · rintro ⟨rest, rfl, ht, hr⟩
      cases before with
      | nil =>
        obtain ⟨rfl, rfl⟩ := List.cons.inj ht
        rw [cutAtLast?_eq_none_iff.mpr hr]
        simp
      | cons e before =>
        obtain ⟨rfl, rfl⟩ := List.cons.inj ht
        rw [ih.mpr ⟨rest, rfl, rfl, hr⟩]

theorem cut?_append_brace {a : Text} (h : '\x7b' ∉ a) (b : Text) :
    cut? (a ++ '\x7b' :: b) =
      (cutAtLast? '\x7d' b).map fun (before, after) => (a ++ '\x7b' :: before, after) := by
  have hpos : ∀ c ∈ a, (c != '\x7b') = true := by
    intro c hc
    simpa using fun heq : c = '\x7b' => h (heq ▸ hc)
  rw [cut?, List.dropWhile_append_of_pos hpos, List.takeWhile_append_of_pos hpos]
  simp

/-- The cut stands before the last closing brace, and an opening brace stands before the cut. -/
theorem cut?_eq_some_iff {source before after : Text} :
    cut? source = some (before, after) ↔
      ∃ rest, after = '\x7d' :: rest ∧ source = before ++ '\x7d' :: rest ∧
        '\x7d' ∉ rest ∧ '\x7b' ∈ before := by
  constructor
  · intro h
    rw [cut?] at h
    split at h
    · cases h
    · next brace body hd =>
      obtain ⟨⟨b, a⟩, hc, heq⟩ := Option.map_eq_some_iff.mp h
      obtain ⟨rfl, rfl⟩ := Prod.mk.inj heq
      obtain ⟨rest, rfl, rfl, hr⟩ := cutAtLast?_eq_some_iff.mp hc
      have hbrace : brace = '\x7b' := by
        have hneg := List.dropWhile_get_zero_not (· != '\x7b') source (by rw [hd]; simp)
        simpa [hd] using hneg
      refine ⟨rest, rfl, ?_, hr, by simp [hbrace]⟩
      rw [List.append_assoc, List.cons_append, ← hd, List.takeWhile_append_dropWhile]
  · rintro ⟨rest, rfl, rfl, hr, hb⟩
    obtain ⟨x, y, rfl, hx⟩ := List.eq_append_cons_of_mem hb
    have hcut : cutAtLast? '\x7d' (y ++ '\x7d' :: rest) = some (y, '\x7d' :: rest) :=
      cutAtLast?_eq_some_iff.mpr ⟨rest, rfl, rfl, hr⟩
    rw [List.append_assoc, List.cons_append, cut?_append_brace hx, hcut]
    rfl

/-- Code put at the cut leaves the braces where they are: the next cut follows the code. -/
theorem cut?_insert {source before after : Text} (h : cut? source = some (before, after))
    (code : Text) : cut? (before ++ code ++ after) = some (before ++ code, after) := by
  obtain ⟨rest, rfl, -, hr, hb⟩ := cut?_eq_some_iff.mp h
  exact cut?_eq_some_iff.mpr ⟨rest, rfl, rfl, hr, List.mem_append_left code hb⟩

theorem insert?_of_cut? {source before after : Text} (h : cut? source = some (before, after))
    (code : Text) : insert? source code = some (before ++ code ++ after) := by
  rw [insert?, h]
  rfl

theorem offset?_of_cut? {source before after : Text} (h : cut? source = some (before, after)) :
    offset? source = some (Text.byteLength before) := by
  rw [offset?, h]
  rfl

theorem offset?_isSome_iff {source : Text} :
    (offset? source).isSome ↔ ∃ before after, cut? source = some (before, after) := by
  rw [offset?, Option.isSome_map, Option.isSome_iff_exists]
  exact Prod.exists

end Insertion

end Accessors

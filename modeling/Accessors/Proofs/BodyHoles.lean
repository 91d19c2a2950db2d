import Accessors.Proofs.RenderingVerdicts
import Mathlib.Data.Nat.Find

/-!
# All holes of a body

The holes of a body are found by one pass from left to right that never looks back. Here a hole is
any place of the body that is spelled like one. No two such places share a character, so there is
one way to cut the body at all of them, and the pass finds it: it misses no hole, whatever braces
stand around it, and it fills each one once.
-/

namespace Accessors

namespace Body

/-- A hole by its place: how many characters of the body stand before it, and its inner text. -/
structure Hole where
  start : Nat
  inner : Text

namespace Hole

def stop (h : Hole) : Nat :=
  h.start + (Piece.hole h.inner).source.length

def shift (n : Nat) (h : Hole) : Hole where
  start := n + h.start
  inner := h.inner

/-- A hole stands in a body if its inner text has no braces and the body spells it there. -/
structure StandsIn (h : Hole) (body : Text) : Prop where
  noBrace : ∀ c ∈ h.inner, isBrace c = false
  spelled : (Piece.hole h.inner).source <+: body.drop h.start

end Hole

theorem length_source (inner : Text) : (Piece.hole inner).source.length = inner.length + 4 := by
  simp [Piece.source]

theorem source_append (inner rest : Text) :
    (Piece.hole inner).source ++ rest =
      '\x7b' :: '\x7b' :: (inner ++ '\x7d' :: '\x7d' :: rest) := by
  simp [Piece.source]

theorem hole?_eq_some_iff {t inner : Text} :
    hole? t = some inner ↔
      (∀ c ∈ inner, isBrace c = false) ∧ (Piece.hole inner).source <+: t := by
  constructor
  · intro h
    obtain ⟨rest, rfl⟩ := hole?_eq_some h
    refine ⟨?_, rest, source_append inner rest⟩
    by_cases hclose :
        ∃ r, (inner ++ '\x7d' :: '\x7d' :: rest).dropWhile (!isBrace ·) = '\x7d' :: '\x7d' :: r
    · obtain ⟨r, hr⟩ := hclose
      rw [hole?_eq_some_of_close hr] at h
      intro c hc
      rw [← Option.some.inj h] at hc
      simpa using List.mem_takeWhile_imp (p := (!isBrace ·)) hc
    · rw [hole?_eq_none_of_open hclose] at h
      cases h
  · rintro ⟨hinner, rest, rfl⟩
    have hpass : ∀ c ∈ inner, (!isBrace c) = true := fun c hc => by simp [hinner c hc]
    have hclose : (inner ++ '\x7d' :: '\x7d' :: rest).dropWhile (!isBrace ·) =
        '\x7d' :: '\x7d' :: rest := by
      rw [List.dropWhile_append_of_pos hpass]
      exact List.dropWhile_cons_of_neg (by decide)
    rw [source_append, hole?_eq_some_of_close hclose, List.takeWhile_append_of_pos hpass,
      List.takeWhile_cons_of_neg (by decide), List.append_nil]

/-- No hole begins inside another: behind its first character an opening brace stands once, and
none follows it. -/
theorem hole?_drop_eq_none {inner rest : Text} {k : Nat} (hinner : ∀ c ∈ inner, isBrace c = false)
    (hpos : 0 < k) (hk : k < (Piece.hole inner).source.length) :
    hole? (((Piece.hole inner).source ++ rest).drop k) = none := by
  have hclosing : ∀ c ∈ inner ++ ['\x7d', '\x7d'], c ≠ '\x7b' := by
    rintro c hc rfl
    rcases List.mem_append.mp hc with hc | hc
    · exact absurd (hinner _ hc) (by decide)
    · exact absurd hc (by decide)
  have hsource : (Piece.hole inner).source ++ rest =
      '\x7b' :: '\x7b' :: (inner ++ ['\x7d', '\x7d'] ++ rest) := by
    simp [Piece.source]
  obtain ⟨j, rfl⟩ : ∃ j, k = j + 1 := ⟨k - 1, by omega⟩
  rw [hsource, List.drop_succ_cons]
  cases j with
  | zero =>
    obtain ⟨c, u, hu⟩ := List.exists_cons_of_ne_nil
      (show inner ++ ['\x7d', '\x7d'] ≠ [] by simp)
    rw [List.drop_zero, hu, List.cons_append]
    exact hole?_eq_none_of_second (hclosing c (hu ▸ List.mem_cons_self)) _
  | succ j =>
    have hj : j < (inner ++ ['\x7d', '\x7d']).length := by
      rw [length_source] at hk
      rw [List.length_append, List.length_cons, List.length_singleton]
      omega
    rw [List.drop_succ_cons, List.drop_append_of_le_length (by omega),
      List.drop_eq_getElem_cons hj, List.cons_append]
    exact hole?_eq_none_of_first (hclosing _ (List.getElem_mem hj)) _

namespace Hole

variable {h h' : Hole} {body t u inner : Text} {n : Nat}

theorem standsIn_iff : h.StandsIn body ↔ hole? (body.drop h.start) = some h.inner := by
  rw [hole?_eq_some_iff]
  exact ⟨fun hs => ⟨hs.noBrace, hs.spelled⟩, fun hs => ⟨hs.1, hs.2⟩⟩

theorem standsIn_shift : (h.shift n).StandsIn body ↔ h.StandsIn (body.drop n) := by
  rw [standsIn_iff, standsIn_iff, List.drop_drop]
  rfl

theorem shift_injective (n : Nat) : Function.Injective (shift n) := by
  intro x y heq
  obtain ⟨hstart, hinner⟩ := Hole.mk.inj heq
  cases x
  cases y
  rw [Hole.mk.injEq]
  exact ⟨Nat.add_left_cancel hstart, hinner⟩

theorem StandsIn.stop_le (hs : h.StandsIn body) : h.stop ≤ body.length := by
  have hlength := hs.spelled.length_le
  rw [List.length_drop, length_source] at hlength
  rw [stop, length_source]
  omega

theorem StandsIn.append (hs : h.StandsIn t) (u : Text) : h.StandsIn (t ++ u) := by
  refine ⟨hs.noBrace, hs.spelled.trans ?_⟩
  rw [List.drop_append]
  exact List.prefix_append _ _

theorem StandsIn.of_append (hs : h.StandsIn (t ++ u)) (hstop : h.stop ≤ t.length) :
    h.StandsIn t := by
  rw [stop] at hstop
  have hspelled := hs.spelled
  rw [List.drop_append_of_le_length (by omega)] at hspelled
  refine ⟨hs.noBrace, List.prefix_of_prefix_length_le hspelled (List.prefix_append _ u) ?_⟩
  rw [List.length_drop]
  omega

theorem standsIn_source (hinner : ∀ c ∈ inner, isBrace c = false) (t u : Text) :
    (Hole.mk t.length inner).StandsIn (t ++ ((Piece.hole inner).source ++ u)) := by
  refine ⟨hinner, ?_⟩
  rw [List.drop_left]
  exact List.prefix_append _ u

theorem StandsIn.stop_le_start (hs : h.StandsIn body) (hs' : h'.StandsIn body)
    (hlt : h.start < h'.start) : h.stop ≤ h'.start := by
  by_contra hover
  obtain ⟨rest, hrest⟩ := hs.spelled
  have hdrop : body.drop h'.start =
      ((Piece.hole h.inner).source ++ rest).drop (h'.start - h.start) := by
    rw [hrest, List.drop_drop, Nat.add_sub_cancel' (Nat.le_of_lt hlt)]
  rw [stop] at hover
  have hnone : hole? (body.drop h'.start) = none :=
    hdrop ▸ hole?_drop_eq_none hs.noBrace (by omega) (by omega)
  rw [standsIn_iff.mp hs'] at hnone
  cases hnone

/-- Two holes of a body are the same or share no character. -/
theorem StandsIn.apart (hs : h.StandsIn body) (hs' : h'.StandsIn body) :
    h = h' ∨ h.stop ≤ h'.start ∨ h'.stop ≤ h.start := by
  rcases Nat.lt_trichotomy h.start h'.start with hlt | heq | hlt
  · exact .inr (.inl (hs.stop_le_start hs' hlt))
  · left
    have hinner := standsIn_iff.mp hs'
    rw [← heq, standsIn_iff.mp hs] at hinner
    cases h
    cases h'
    cases heq
    cases hinner
    rfl
  · exact .inr (.inr (hs'.stop_le_start hs hlt))

/-- A hole of a text without holes, a hole and a further text is that hole, or stands behind it. -/
theorem StandsIn.eq_or_behind (hs : h.StandsIn (t ++ ((Piece.hole inner).source ++ u)))
    (hplain : ∀ h' : Hole, ¬h'.StandsIn t) (hinner : ∀ c ∈ inner, isBrace c = false) :
    h = ⟨t.length, inner⟩ ∨
      ∃ h' : Hole, h'.StandsIn u ∧ h = h'.shift (Hole.mk t.length inner).stop := by
  rcases hs.apart (standsIn_source hinner t u) with heq | hbefore | hbehind
  · exact .inl heq
  · exact absurd (hs.of_append hbefore) (hplain h)
  · refine .inr ⟨⟨h.start - (Hole.mk t.length inner).stop, h.inner⟩, ?_, ?_⟩
    · have hdrop :
          (t ++ ((Piece.hole inner).source ++ u)).drop (Hole.mk t.length inner).stop = u := by
        rw [← List.append_assoc, stop, ← List.length_append, List.drop_left]
      rw [← hdrop, ← standsIn_shift, shift, Nat.add_sub_cancel' hbehind]
      exact hs
    · rw [shift, Nat.add_sub_cancel' hbehind]

end Hole

/-- A body written as plain texts with holes between them. -/
inductive Cut
  | plain (t : Text)
  | hole (t inner : Text) (rest : Cut)

namespace Cut

def body : Cut → Text
  | plain t => t
  | hole t inner rest => t ++ ((Piece.hole inner).source ++ rest.body)

def plains : Cut → List Text
  | plain t => [t]
  | hole t _ rest => t :: rest.plains

/-- The holes in their order, in a body that follows `n` characters. -/
def holesAfter : Nat → Cut → List Hole
  | _, plain _ => []
  | n, hole t inner rest =>
    ⟨n + t.length, inner⟩ :: rest.holesAfter (n + (Hole.mk t.length inner).stop)

def holes (cut : Cut) : List Hole :=
  cut.holesAfter 0

/-- The keys of the holes: their inner texts without the white space around them. -/
def keys (cut : Cut) : List Text :=
  cut.holes.map fun h => Text.trim h.inner

/-- The plain texts as they are, with the value of its key in place of each hole. -/
def filled (values : Text → Option Text) : Cut → Text
  | plain t => t
  | hole t inner rest => t ++ ((values (Text.trim inner)).getD [] ++ rest.filled values)

structure CutsAll (cut : Cut) (body : Text) : Prop where
  body_eq : cut.body = body
  mem_holes_iff : ∀ h : Hole, h ∈ cut.holes ↔ h.StandsIn body

/-- A cut whose holes have no braces inside and whose plain texts have no holes. -/
def IsTight : Cut → Prop
  | plain t => ∀ h : Hole, ¬h.StandsIn t
  | hole t inner rest =>
    (∀ h : Hole, ¬h.StandsIn t) ∧ (∀ c ∈ inner, isBrace c = false) ∧ rest.IsTight

variable {cut : Cut}

theorem holesAfter_eq (n : Nat) (cut : Cut) : cut.holesAfter n = cut.holes.map (Hole.shift n) := by
  induction cut generalizing n with
  | plain t => rfl
  | hole t inner rest ih =>
    rw [holes, holesAfter, holesAfter, ih, ih (0 + _), List.map_cons, List.map_map]
    simp [Hole.shift, Function.comp_def, Nat.add_assoc]

theorem mem_holes_hole {t inner : Text} {rest : Cut} {h : Hole} :
    h ∈ (hole t inner rest).holes ↔ h = ⟨t.length, inner⟩ ∨
      ∃ h' ∈ rest.holes, h = h'.shift (Hole.mk t.length inner).stop := by
  rw [holes, holesAfter, holesAfter_eq, List.mem_cons, List.mem_map, Nat.zero_add, Nat.zero_add]
  simp [eq_comm]

theorem standsIn_body_iff {t inner : Text} {rest : Cut} {h : Hole} :
    (h.shift (Hole.mk t.length inner).stop).StandsIn (hole t inner rest).body ↔
      h.StandsIn rest.body := by
  rw [Hole.standsIn_shift, body, ← List.append_assoc, Hole.stop, ← List.length_append,
    List.drop_left]

theorem IsTight.mem_holes_iff (h : cut.IsTight) (x : Hole) :
    x ∈ cut.holes ↔ x.StandsIn cut.body := by
  induction cut generalizing x with
  | plain t =>
    constructor
    · intro hx
      cases hx
    · intro hx
      exact absurd hx (h x)
  | hole t inner rest ih =>
    obtain ⟨hplain, hinner, hrest⟩ := h
    rw [mem_holes_hole]
    constructor
    · rintro (rfl | ⟨y, hy, rfl⟩)
      · exact Hole.standsIn_source hinner t rest.body
      · exact standsIn_body_iff.mpr ((ih hrest y).mp hy)
    · intro hx
      refine (hx.eq_or_behind hplain hinner).imp_right ?_
      rintro ⟨y, hy, rfl⟩
      exact ⟨y, (ih hrest y).mpr hy, rfl⟩

/-- What follows the first hole of a body that is cut at all its holes is so cut itself. -/
theorem CutsAll.rest {b t inner : Text} {rest : Cut} (h : (hole t inner rest).CutsAll b) :
    rest.CutsAll rest.body := by
  obtain ⟨rfl, hholes⟩ := h
  refine ⟨rfl, fun x => ?_⟩
  rw [← @standsIn_body_iff t inner rest, ← hholes, mem_holes_hole]
  constructor
  · exact fun hx => .inr ⟨x, hx, rfl⟩
  · rintro (heq | ⟨y, hy, heq⟩)
    -- The first hole does not begin behind its own end.
    · have hstart := congrArg Hole.start heq
      simp only [Hole.shift, Hole.stop, length_source] at hstart
      omega
    · rwa [Hole.shift_injective _ heq]

/-- A body that is cut at all its holes has none left in its plain texts. -/
theorem CutsAll.isTight {b : Text} (h : cut.CutsAll b) : cut.IsTight := by
  induction cut generalizing b with
  | plain t =>
    obtain ⟨rfl, hholes⟩ := h
    intro x hx
    have hmem := (hholes x).mpr hx
    cases hmem
  | hole t inner rest ih =>
    have hrest := ih h.rest
    obtain ⟨rfl, hholes⟩ := h
    have hfirst := (hholes ⟨t.length, inner⟩).mp (mem_holes_hole.mpr (.inl rfl))
    refine ⟨fun x hx => ?_, hfirst.noBrace, hrest⟩
    have hstop := hx.stop_le
    rw [Hole.stop, length_source] at hstop
    rcases mem_holes_hole.mp ((hholes x).mpr (hx.append _)) with rfl | ⟨y, -, rfl⟩
    · dsimp only at hstop
      omega
    · simp only [Hole.shift, Hole.stop] at hstop
      omega

theorem exists_first_hole {b : Text} (h : ∃ x : Hole, x.StandsIn b) :
    ∃ x : Hole, x.StandsIn b ∧ ∀ y : Hole, y.StandsIn b → x.start ≤ y.start := by
  classical
  have hstart : ∃ n, ∃ x : Hole, x.StandsIn b ∧ x.start = n := by
    obtain ⟨x, hx⟩ := h
    exact ⟨x.start, x, hx, rfl⟩
  obtain ⟨x, hx, hfind⟩ := Nat.find_spec hstart
  refine ⟨x, hx, fun y hy => ?_⟩
  rw [hfind]
  exact Nat.find_min' hstart ⟨y, hy, rfl⟩

/-- Cutting at the first hole and going on behind it cuts a body at all its holes. -/
theorem exists_cutsAll (b : Text) : ∃ cut : Cut, cut.CutsAll b := by
  suffices htight : ∃ cut : Cut, cut.body = b ∧ cut.IsTight by
    obtain ⟨cut, rfl, h⟩ := htight
    exact ⟨cut, rfl, h.mem_holes_iff⟩
  induction hn : b.length using Nat.strong_induction_on generalizing b with
  | _ n ih =>
    by_cases hholes : ∃ x : Hole, x.StandsIn b
    · obtain ⟨x, hx, hfirst⟩ := exists_first_hole hholes
      obtain ⟨rest, hrest⟩ := hx.spelled
      have hb : b.take x.start ++ ((Piece.hole x.inner).source ++ rest) = b := by
        rw [hrest, List.take_append_drop]
      have hlength : (b.take x.start).length = x.start := by
        have hstop := hx.stop_le
        rw [Hole.stop] at hstop
        rw [List.length_take]
        omega
      have hshorter : rest.length < n := by
        rw [← hn, ← hb, List.length_append, List.length_append, length_source]
        omega
      obtain ⟨cut, rfl, hcut⟩ := ih rest.length hshorter rest rfl
      refine ⟨.hole (b.take x.start) x.inner cut, hb, fun y hy => ?_, hx.noBrace, hcut⟩
      have hstop := hy.stop_le
      have hstart := hfirst y (hb ▸ hy.append _)
      rw [hlength, Hole.stop, length_source] at hstop
      omega
    · exact ⟨.plain b, rfl, fun x hx => hholes ⟨x, hx⟩⟩

end Cut

/-- Where no hole begins before the end of `t`, its characters stand for themselves. -/
theorem pieces_append {t u : Text} (h : ∀ x : Hole, x.StandsIn (t ++ u) → t.length ≤ x.start) :
    pieces (t ++ u) = t.map .char ++ pieces u := by
  induction t with
  | nil => rfl
  | cons c t ih =>
    have hnone : hole? (c :: (t ++ u)) = none := by
      rw [Option.eq_none_iff_forall_not_mem]
      intro inner hinner
      have hstart := h ⟨0, inner⟩ (Hole.standsIn_iff.mpr hinner)
      cases hstart
    rw [List.cons_append, pieces_cons_char hnone, ih, List.map_cons, List.cons_append]
    intro x hx
    have hstart := h (x.shift 1) (Hole.standsIn_shift.mpr hx)
    simp only [Hole.shift, List.length_cons] at hstart
    omega

theorem pieces_source {inner : Text} (h : ∀ c ∈ inner, isBrace c = false) (u : Text) :
    pieces ((Piece.hole inner).source ++ u) = .hole inner :: pieces u := by
  have hhole := hole?_eq_some_iff.mpr ⟨h, List.prefix_append (Piece.hole inner).source u⟩
  have hdrop : ('\x7b' :: (inner ++ '\x7d' :: '\x7d' :: u)).drop (inner.length + 3) = u := by
    rw [List.drop_succ_cons, List.drop_length_add_append]
    rfl
  rw [source_append] at hhole ⊢
  rw [pieces_cons_hole hhole, hdrop]

namespace Cut

variable {cut : Cut} {values : Text → Option Text}

def pieces : Cut → List Piece
  | plain t => t.map .char
  | hole t inner rest => t.map .char ++ .hole inner :: rest.pieces

theorem IsTight.pieces_body (h : cut.IsTight) : Body.pieces cut.body = cut.pieces := by
  induction cut with
  | plain t =>
    have hpieces := @pieces_append t [] fun x hx => absurd (List.append_nil t ▸ hx) (h x)
    rw [List.append_nil] at hpieces
    rw [body, hpieces]
    exact List.append_nil _
  | hole t inner rest ih =>
    obtain ⟨hplain, hinner, hrest⟩ := h
    rw [body, pieces_append, pieces_source hinner, ih hrest, pieces]
    intro x hx
    rcases hx.eq_or_behind hplain hinner with rfl | ⟨y, -, rfl⟩
    · exact Nat.le_refl _
    · simp only [Hole.shift, Hole.stop]
      omega

theorem keys_hole (t inner : Text) (rest : Cut) :
    (hole t inner rest).keys = Text.trim inner :: rest.keys := by
  rw [keys, holes, holesAfter, holesAfter_eq, List.map_cons, List.map_map]
  rfl

theorem filterMap_key?_pieces (cut : Cut) : cut.pieces.filterMap Piece.key? = cut.keys := by
  have hplain : ∀ t : Text, (t.map Piece.char).filterMap Piece.key? = [] := by
    simp [Piece.key?]
  induction cut with
  | plain t => exact hplain t
  | hole t inner rest ih =>
    rw [pieces, List.filterMap_append, hplain, keys_hole, ← ih]
    rfl

theorem flatMap_filled_pieces (values : Text → Option Text) (cut : Cut) :
    cut.pieces.flatMap (Piece.filled values) = cut.filled values := by
  have hplain : ∀ t : Text, (t.map Piece.char).flatMap (Piece.filled values) = t := by
    simp [List.flatMap_map, Piece.filled]
  induction cut with
  | plain t => exact hplain t
  | hole t inner rest ih =>
    rw [pieces, List.flatMap_append, hplain, List.flatMap_cons, ih]
    rfl

theorem CutsAll.fill_eq {b : Text} (h : cut.CutsAll b) :
    fill values b =
      (cut.keys.find? fun k => (values k).isNone).elim (.ok (cut.filled values)) .error := by
  have hpieces : Body.pieces b = cut.pieces := by
    rw [← h.body_eq, h.isTight.pieces_body]
  rw [fill, hpieces]
  cases hk : cut.keys.find? fun k => (values k).isNone with
  | none =>
    rw [List.find?_eq_none, ← filterMap_key?_pieces] at hk
    have hvalues : ∀ k ∈ cut.pieces.filterMap Piece.key?, (values k).isSome = true :=
      fun k hmem => by simpa [Option.isSome_iff_ne_none] using hk k hmem
    rw [fillPieces_eq_ok hvalues, flatMap_filled_pieces]
    rfl
  | some k =>
    rw [← filterMap_key?_pieces] at hk
    exact fillPieces_eq_error hk

theorem IsTight.not_standsIn (h : cut.IsTight) {t : Text} (ht : t ∈ cut.plains) (x : Hole) :
    ¬x.StandsIn t := by
  induction cut with
  | plain u =>
    rw [List.mem_singleton.mp ht]
    exact h x
  | hole u inner rest ih =>
    rcases List.mem_cons.mp ht with rfl | hrest
    · exact h.1 x
    · exact ih h.2.2 hrest

end Cut

end Body

open Body

/-- Rendering fills every hole of a body once. Holes share no characters, so a body is cut at all of
them; then the plain texts hold no hole and are kept, and each hole gives way to the value of its
key as it is, unless some key has none, and then the first such key is reported. -/
theorem rendering_fills_every_hole (name body : Text) (values : Text → Option Text) :
    (∀ h h' : Hole, h.StandsIn body → h'.StandsIn body →
        h = h' ∨ h.stop ≤ h'.start ∨ h'.stop ≤ h.start) ∧
      (∃ cut : Cut, cut.CutsAll body) ∧
      ∀ cut : Cut, cut.CutsAll body →
        (∀ t ∈ cut.plains, ∀ h : Hole, ¬h.StandsIn t) ∧
          Template.render name values body =
            (cut.keys.find? fun k => (values k).isNone).elim (.ok (cut.filled values))
              fun k => .error (.unknownPlaceholder name k) := by
  refine ⟨fun h h' hs hs' => hs.apart hs', Cut.exists_cutsAll body, fun cut hcut =>
    ⟨fun t ht h => hcut.isTight.not_standsIn ht h, ?_⟩⟩
  rw [Template.render, hcut.fill_eq]
  cases cut.keys.find? fun k => (values k).isNone <;> rfl

-- The third brace of a run belongs to no hole, and a value that looks like a hole is not filled.
example :
    Template.render "T" (fun k => if k = "a" then some "\x7b\x7bb\x7d\x7d" else none)
        "\x7b\x7b\x7b a \x7d\x7d\x7d\x7b\x7ba\x7d\x7d\x7b\x7ba\x7d" =
      .ok "\x7b\x7b\x7bb\x7d\x7d\x7d\x7b\x7bb\x7d\x7d\x7b\x7ba\x7d" := by
  decide

end Accessors

import Accessors.Proofs.QuotedTexts
import Accessors.Settings.Format

/-!
# Written documents are read back

A document is written line by line: pairs of a bare key and a value, and headers. Each line is read
back as its statement, whatever follows it.
-/

namespace Accessors

open Text

namespace Toml

open Settings

theorem exists_writeText_eq_cons (t : Text) :
    ∃ q u, writeText t = q :: u ∧ (q = '"' ∨ q = '\'') := by
  have hbasic : ∃ q u, writeBasic t = q :: u ∧ (q = '"' ∨ q = '\'') := ⟨'"', _, rfl, .inl rfl⟩
  have hlines : ∃ q u, writeBasicLines t = q :: u ∧ (q = '"' ∨ q = '\'') := ⟨'"', _, rfl, .inl rfl⟩
  rw [writeText]
  simp only [Bool.and_eq_true]
  split
  · exact hbasic
  split
  · exact ⟨'\'', _, rfl, .inr rfl⟩
  split
  · exact hlines
  split
  · exact ⟨'\'', _, rfl, .inr rfl⟩
  split
  · exact hbasic
  · exact hlines

theorem value?_writeText (depth : Nat) (t : Text) {rest : Text} (hrest : rest.head? ≠ some '"')
    (hrest' : rest.head? ≠ some '\'') :
    value? depth (writeText t ++ rest) = some (.text t, rest) := by
  have hread := quoted?_writeText t hrest hrest'
  obtain ⟨q, u, hq, hquote⟩ := exists_writeText_eq_cons t
  rw [hq, List.cons_append] at hread ⊢
  have hsimple : simpleValue? (q :: (u ++ rest)) = some (.text t, rest) := by
    rcases hquote with rfl | rfl <;> simp [simpleValue?, hread]
  cases depth with
  | zero => exact hsimple
  | succ depth => rcases hquote with rfl | rfl <;> exact hsimple

theorem value?_writeFlag (depth : Nat) (b : Bool) (rest : Text) :
    value? depth (writeFlag b ++ rest) = some (.flag b, rest) := by
  cases depth <;> cases b <;> rfl

theorem skipTrivia_writeText (t rest : Text) :
    skipTrivia false (writeText t ++ rest) = writeText t ++ rest := by
  obtain ⟨q, u, hq, hquote⟩ := exists_writeText_eq_cons t
  rw [hq]
  rcases hquote with rfl | rfl <;> rfl

/-- An item is read, and then either the bracket closes the array or a comma leads to the rest. -/
theorem items?_item (depth fuel : Nat) {u t rest : Text}
    (hskip : skipTrivia false u = writeText t ++ rest) (hrest : rest.head? ≠ some '"')
    (hrest' : rest.head? ≠ some '\'') :
    items? (value? depth) (fuel + 1) u =
      match skipTrivia false rest with
      | ']' :: rest => some ([.text t], rest)
      | ',' :: rest => (items? (value? depth) fuel rest).map fun (vs, r) => (.text t :: vs, r)
      | _ => none := by
  have hread := value?_writeText depth t hrest hrest'
  rw [items?]
  split
  · next r hbracket =>
    obtain ⟨q, v, hq, hquote⟩ := exists_writeText_eq_cons t
    rw [hskip, hq] at hbracket
    obtain ⟨rfl, -⟩ := List.cons.inj hbracket
    rcases hquote with h | h <;> cases h
  · split
    · next hnone =>
      rw [hskip, hread] at hnone
      cases hnone
    · next v r hsome =>
      rw [hskip, hread] at hsome
      cases hsome
      rfl

theorem items?_flatMap_writeItem (depth : Nat) (ts : List Text) {fuel : Nat}
    (h : ts.length < fuel) (rest : Text) :
    items? (value? depth) fuel ('\n' :: (ts.flatMap writeItem ++ ']' :: rest)) =
      some (ts.map .text, rest) := by
  induction ts generalizing fuel with
  | nil =>
    obtain ⟨fuel, rfl⟩ := Nat.exists_eq_add_of_lt h
    rfl
  | cons t ts ih =>
    obtain ⟨fuel, rfl⟩ : ∃ k, fuel = k + 1 := ⟨fuel - 1, by omega⟩
    have hskip : skipTrivia false ('\n' :: ((t :: ts).flatMap writeItem ++ ']' :: rest)) =
        writeText t ++ ',' :: '\n' :: (ts.flatMap writeItem ++ ']' :: rest) := by
      have htext : (t :: ts).flatMap writeItem ++ ']' :: rest =
          ' ' :: ' ' :: ' ' :: ' ' ::
            (writeText t ++ ',' :: '\n' :: (ts.flatMap writeItem ++ ']' :: rest)) := by
        simp [writeItem]
      rw [htext]
      exact skipTrivia_writeText t _
    have hrest := ih (show ts.length < fuel by simp only [List.length_cons] at h; omega)
    rw [items?_item depth fuel hskip (by simp) (by simp)]
    change (items? (value? depth) fuel ('\n' :: (ts.flatMap writeItem ++ ']' :: rest))).map _ = _
    rw [hrest]
    rfl

theorem length_le_flatMap_writeItem (ts : List Text) :
    ts.length ≤ (ts.flatMap writeItem).length := by
  induction ts with
  | nil => exact Nat.le_refl _
  | cons t ts ih =>
    have hitem : 0 < (writeItem t).length := by simp [writeItem]
    rw [List.flatMap_cons, List.length_append, List.length_cons]
    omega

theorem value?_writeTexts (depth : Nat) (ts : List Text) (rest : Text) :
    value? (depth + 1) (writeTexts ts ++ rest) = some (.array (ts.map .text), rest) := by
  match ts with
  | [] => rfl
  | [t] =>
    have htext : writeTexts [t] ++ rest = '[' :: (writeText t ++ ']' :: rest) := by
      simp [writeTexts]
    rw [htext, value?, items?_item depth _ (skipTrivia_writeText t _) (by simp) (by simp)]
    rfl
  | t :: t' :: ts =>
    have htext : writeTexts (t :: t' :: ts) ++ rest =
        '[' :: '\n' :: ((t :: t' :: ts).flatMap writeItem ++ ']' :: rest) := by
      simp [writeTexts]
    have hlength := length_le_flatMap_writeItem (t :: t' :: ts)
    rw [htext, value?, items?_flatMap_writeItem]
    · rfl
    · simp only [List.length_cons, List.length_append] at hlength ⊢
      omega

/-- A text that is read as a value where the line ends after it. -/
structure Shows (v : Text) (val : Value) : Prop where
  head : ∀ c ∈ v.head?, isBlank c = false
  read : ∀ rest, value? maxDepth (v ++ '\n' :: rest) = some (val, '\n' :: rest)

theorem shows_writeText (t : Text) : Shows (writeText t) (.text t) where
  head := by
    obtain ⟨q, u, hq, hquote⟩ := exists_writeText_eq_cons t
    rw [hq]
    rintro c ⟨rfl⟩
    rcases hquote with rfl | rfl <;> decide
  read rest := value?_writeText maxDepth t (by simp) (by simp)

theorem shows_writeFlag (b : Bool) : Shows (writeFlag b) (.flag b) where
  head := by
    cases b with
    | false => rintro c ⟨rfl⟩; rfl
    | true => rintro c ⟨rfl⟩; rfl
  read rest := value?_writeFlag maxDepth b _

theorem shows_writeTexts (ts : List Text) : Shows (writeTexts ts) (.array (ts.map .text)) where
  head := by
    match ts with
    | [] => rintro c ⟨rfl⟩; rfl
    | [t] => rintro c ⟨rfl⟩; rfl
    | t :: t' :: ts => rintro c ⟨rfl⟩; rfl
  read rest := value?_writeTexts 78 ts _

theorem exists_cons_of_isBareKey {k : Text} (h : isBareKey k = true) :
    ∃ c k', k = c :: k' ∧ isBlank c = false ∧ c ≠ '[' ∧ ∀ u, isIdle (c :: u) = false := by
  obtain ⟨hcons, hbare⟩ := isBareKey_iff.mp h
  obtain ⟨c, k, rfl⟩ := List.exists_cons_of_ne_nil hcons
  have hc := hbare c List.mem_cons_self
  have hne : ∀ d, isBare d = false → c ≠ d := by
    rintro d hd rfl
    rw [hc] at hd
    cases hd
  refine ⟨c, k, rfl, ?_, hne '[' (by decide), ?_⟩
  · simp [isBlank, hne ' ' (by decide), hne '\t' (by decide)]
  · intro u
    rw [isIdle]
    · exact fun h => by cases h
    · exact fun _ h => hne '\n' (by decide) (List.cons.inj h).1
    · exact fun _ h => hne '\r' (by decide) (List.cons.inj h).1
    · exact fun _ h => hne '#' (by decide) (List.cons.inj h).1

theorem dottedKey?_last {most : Nat} {t k rest : Text} {c : Char} {u : Text}
    (hpart : keyPart? (t.dropWhile isBlank) = some (k, rest))
    (hrest : rest.dropWhile isBlank = c :: u) (hc : c ≠ '.') :
    dottedKey? (most + 1) t = some ([k], c :: u) := by
  rw [dottedKey?, hpart]
  simp only [hrest]
  split
  · next h => exact absurd (List.cons.inj h).1 hc
  · rfl

theorem dottedKey?_dot {most : Nat} {t k u : Text}
    (hpart : keyPart? (t.dropWhile isBlank) = some (k, '.' :: u)) :
    dottedKey? (most + 1) t = (dottedKey? most u).map fun (ks, r) => (k :: ks, r) := by
  rw [dottedKey?, hpart]
  rfl

theorem key?_bare {k : Text} (hk : isBareKey k = true) (rest : Text) :
    key? (k ++ ' ' :: '=' :: rest) = some ([k], '=' :: rest) := by
  obtain ⟨c, k', hcons, hblank, -, -⟩ := exists_cons_of_isBareKey hk
  have hdrop : (k ++ ' ' :: '=' :: rest).dropWhile isBlank = k ++ ' ' :: '=' :: rest := by
    rw [hcons, List.cons_append, List.dropWhile_cons_of_neg (by simp [hblank])]
  have hpart : keyPart? ((k ++ ' ' :: '=' :: rest).dropWhile isBlank) =
      some (k, ' ' :: '=' :: rest) := by
    rw [hdrop]
    exact keyPart?_bare hk (by rintro c ⟨rfl⟩; decide)
  exact dottedKey?_last hpart rfl (by decide)

theorem statement?_writePair {k v : Text} {val : Value} (hk : isBareKey k = true) (hv : Shows v val)
    (rest : Text) : statement? (writePair k v ++ rest) = some (.pair [k] val, rest) := by
  have htext : writePair k v ++ rest = k ++ ' ' :: '=' :: ' ' :: (v ++ '\n' :: rest) := by
    simp [writePair]
  have hdrop : (' ' :: (v ++ '\n' :: rest)).dropWhile isBlank = v ++ '\n' :: rest := by
    rw [List.dropWhile_cons_of_pos rfl]
    cases v with
    | nil => rfl
    | cons c v => exact List.dropWhile_cons_of_neg (by simp [hv.head c rfl])
  have hpair : pair? (value? maxDepth) (k ++ ' ' :: '=' :: ' ' :: (v ++ '\n' :: rest)) =
      some (([k], val), '\n' :: rest) := by
    rw [pair?, key?_bare hk]
    simp only [hdrop, hv.read]
    rfl
  obtain ⟨c, k', hcons, -, hbracket, -⟩ := exists_cons_of_isBareKey hk
  rw [htext, statement?, hpair]
  · rfl
  · intro u hu
    rw [hcons] at hu
    exact hbracket (List.cons.inj hu).1

theorem exists_writeKey_eq_cons (t : Text) : ∃ c u, writeKey t = c :: u ∧ isBlank c = false := by
  rw [writeKey]
  simp only [Bool.and_eq_true]
  split
  · next h =>
    obtain ⟨c, u, hcons, hblank, -, -⟩ :=
      exists_cons_of_isBareKey (Bool.and_eq_true_iff.mpr h)
    exact ⟨c, u, hcons, hblank⟩
  split
  · exact ⟨'"', _, rfl, by decide⟩
  split
  · exact ⟨'\'', _, rfl, by decide⟩
  · exact ⟨'"', _, rfl, by decide⟩

theorem dottedKey?_writeKey (most : Nat) (name rest : Text) :
    dottedKey? (most + 1) (writeKey name ++ ']' :: rest) = some ([name], ']' :: rest) := by
  obtain ⟨c, u, hcons, hblank⟩ := exists_writeKey_eq_cons name
  have hdrop : (writeKey name ++ ']' :: rest).dropWhile isBlank = writeKey name ++ ']' :: rest := by
    rw [hcons, List.cons_append, List.dropWhile_cons_of_neg (by simp [hblank])]
  have hpart : keyPart? ((writeKey name ++ ']' :: rest).dropWhile isBlank) =
      some (name, ']' :: rest) := by
    rw [hdrop]
    exact keyPart?_writeKey name (by rintro c ⟨rfl⟩; decide)
  exact dottedKey?_last hpart rfl (by decide)

/-- The header of a user template. -/
theorem statement?_userHeader (name rest : Text) :
    statement? ("[templates.".toList ++ (writeKey name ++ ']' :: '\n' :: rest)) =
      some (.header ["templates".toList, name], rest) := by
  have hpart : keyPart?
      (("templates".toList ++ '.' :: (writeKey name ++ ']' :: '\n' :: rest)).dropWhile isBlank) =
        some ("templates".toList, '.' :: (writeKey name ++ ']' :: '\n' :: rest)) :=
    @keyPart?_bare "templates".toList _ rfl (by rintro c ⟨rfl⟩; decide)
  have hkey : key? ("templates".toList ++ '.' :: (writeKey name ++ ']' :: '\n' :: rest)) =
      some (["templates".toList, name], ']' :: '\n' :: rest) := by
    rw [key?, maxDepth, dottedKey?_dot hpart, dottedKey?_writeKey]
    rfl
  have htext : "[templates.".toList ++ (writeKey name ++ ']' :: '\n' :: rest) =
      '[' :: ("templates".toList ++ '.' :: (writeKey name ++ ']' :: '\n' :: rest)) := rfl
  rw [htext, statement?, hkey]
  rfl

/-- A text that is read as statements, given fuel for its length. -/
def Reads (t : Text) (ss : List Statement) : Prop :=
  ∀ fuel, t.length < fuel → statements? fuel t = some ss

theorem Reads.nil : Reads [] [] := by
  intro fuel h
  obtain ⟨fuel, rfl⟩ : ∃ k, fuel = k + 1 := ⟨fuel - 1, by omega⟩
  rfl

theorem Reads.newline {t : Text} {ss : List Statement} (h : Reads t ss) :
    Reads ('\n' :: t) ss := by
  intro fuel hfuel
  obtain ⟨fuel, rfl⟩ : ∃ k, fuel = k + 1 := ⟨fuel - 1, by omega⟩
  exact h fuel (by simpa using hfuel)

theorem Reads.statement {t rest : Text} {s : Statement} {ss : List Statement} {c : Char} {u : Text}
    (ht : t = c :: u) (hblank : isBlank c = false) (hidle : isIdle (c :: u) = false)
    (hread : statement? t = some (s, rest)) (hlength : rest.length < t.length) (h : Reads rest ss) :
    Reads t (s :: ss) := by
  intro fuel hfuel
  obtain ⟨fuel, rfl⟩ : ∃ k, fuel = k + 1 := ⟨fuel - 1, by omega⟩
  have hrest := h fuel (by omega)
  have hdrop : t.dropWhile isBlank = c :: u := by
    rw [ht, List.dropWhile_cons_of_neg (by simp [hblank])]
  rw [ht] at hread
  rw [statements?, hdrop]
  simp [hidle, hread, hrest]

theorem Reads.pair {k v rest : Text} {val : Value} {ss : List Statement} (hk : isBareKey k = true)
    (hv : Shows v val) (h : Reads rest ss) :
    Reads (writePair k v ++ rest) (.pair [k] val :: ss) := by
  obtain ⟨c, k', hcons, hblank, -, hidle⟩ := exists_cons_of_isBareKey hk
  have htext : writePair k v ++ rest = c :: (k' ++ " = ".toList ++ v ++ "\n".toList ++ rest) := by
    simp [writePair, hcons]
  refine Reads.statement htext hblank (hidle _) (statement?_writePair hk hv rest) ?_ h
  rw [htext]
  simp only [List.length_cons, List.length_append]
  omega

theorem Reads.userHeader {rest : Text} {ss : List Statement} (name : Text) (h : Reads rest ss) :
    Reads ("[templates.".toList ++ (writeKey name ++ ']' :: '\n' :: rest))
      (.header ["templates".toList, name] :: ss) := by
  refine Reads.statement rfl (by decide) rfl (statement?_userHeader name rest) ?_ h
  simp only [List.length_cons, List.length_append]
  omega

theorem document?_of_reads {t : Text} {ss : List Statement} (hmark : dropMark t = t)
    (h : Reads t ss) :
    document? t = (ss.foldlM Progress.step {}).map Progress.entries := by
  rw [document?, hmark, h _ (Nat.lt_succ_self _)]
  rfl

end Toml

end Accessors

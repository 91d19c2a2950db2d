import Accessors.Proofs.ByteOrder
import Accessors.Proofs.DeclaredMethods
import Accessors.Proofs.InsertionPoint

/-!
# Sources that grow

New methods go before the last closing brace of a source, and the place is counted in bytes. Code
put there leaves the place right behind itself, so codes put in one after another stand in their
order. It hides no declaration either: a method that a source declares stays declared.
-/

namespace Accessors

namespace Text

def IsFirstByte (b : UInt8) (t : Text) (n : Nat) : Prop :=
  (octets t)[n]? = some b ∧ ∀ k < n, (octets t)[k]? ≠ some b

def IsLastByte (b : UInt8) (t : Text) (n : Nat) : Prop :=
  (octets t)[n]? = some b ∧ ∀ k > n, (octets t)[k]? ≠ some b

theorem octets_append (s t : Text) : octets (s ++ t) = octets s ++ octets t := by
  simp only [octets_eq_flatMap, List.flatMap_append]

theorem length_octets (t : Text) : (octets t).length = byteLength t := by
  induction t with
  | nil => rfl
  | cons c t ih =>
    rw [octets_cons, List.length_append, String.length_utf8EncodeChar, ih, byteLength]

variable {c d : Char} {a b t : Text} {n : Nat}

theorem utf8EncodeChar_of_ascii (hc : c.toNat ≤ 127) :
    String.utf8EncodeChar c = [UInt8.ofNat c.toNat] :=
  if_pos hc

/-- A character beyond ASCII has bytes from 128 on. -/
theorem le_of_mem_utf8EncodeChar {x : UInt8} (hd : 127 < d.toNat)
    (h : x ∈ String.utf8EncodeChar d) : 128 ≤ x.toNat := by
  have hofNat : ∀ m, 128 ≤ m → m < 256 → 128 ≤ (UInt8.ofNat m).toNat := by
    intro m hm hlt
    rwa [UInt8.toNat_ofNat_of_lt' hlt]
  rw [String.utf8EncodeChar] at h
  change 127 < d.val.toNat at hd
  generalize d.val.toNat = v at h hd
  rw [if_neg (by omega)] at h
  split at h
  · simp only [List.mem_cons, List.not_mem_nil, or_false] at h
    rcases h with rfl | rfl <;> exact hofNat _ (by omega) (by omega)
  · split at h
    · simp only [List.mem_cons, List.not_mem_nil, or_false] at h
      rcases h with rfl | rfl | rfl <;> exact hofNat _ (by omega) (by omega)
    · simp only [List.mem_cons, List.not_mem_nil, or_false] at h
      rcases h with rfl | rfl | rfl | rfl <;> exact hofNat _ (by omega) (by omega)

/-- The byte of an ASCII character stands for that character only. -/
theorem mem_utf8EncodeChar_iff (hc : c.toNat ≤ 127) :
    UInt8.ofNat c.toNat ∈ String.utf8EncodeChar d ↔ c = d := by
  by_cases hd : d.toNat ≤ 127
  · rw [utf8EncodeChar_of_ascii hd, List.mem_singleton,
      ofNat_eq_ofNat (by omega) (by omega), Char.toNat_inj]
  · constructor
    · intro h
      have hle := le_of_mem_utf8EncodeChar (by omega) h
      rw [UInt8.toNat_ofNat_of_lt' (show c.toNat < 256 by omega)] at hle
      omega
    · rintro rfl
      exact absurd hc hd

theorem mem_octets_iff (hc : c.toNat ≤ 127) : UInt8.ofNat c.toNat ∈ octets t ↔ c ∈ t := by
  rw [octets_eq_flatMap, List.mem_flatMap]
  simp only [mem_utf8EncodeChar_iff hc]
  simp

theorem octets_append_cons (hc : c.toNat ≤ 127) (a b : Text) :
    octets (a ++ c :: b) = octets a ++ UInt8.ofNat c.toNat :: octets b := by
  rw [octets_append, octets_cons, utf8EncodeChar_of_ascii hc]
  rfl

theorem getElem?_octets (hc : c.toNat ≤ 127) (a b : Text) :
    (octets (a ++ c :: b))[byteLength a]? = some (UInt8.ofNat c.toNat) := by
  rw [octets_append_cons hc, ← length_octets]
  simp

/-- Where the byte of `c` stands in a text, there is that `c`, or one before it, or one behind. -/
theorem getElem?_octets_cases (hc : c.toNat ≤ 127)
    (h : (octets (a ++ c :: b))[n]? = some (UInt8.ofNat c.toNat)) :
    n = byteLength a ∨ n < byteLength a ∧ c ∈ a ∨ byteLength a < n ∧ c ∈ b := by
  rw [octets_append_cons hc] at h
  rw [← length_octets]
  rcases Nat.lt_trichotomy n (octets a).length with hlt | heq | hgt
  · rw [List.getElem?_append_left hlt] at h
    exact .inr (.inl ⟨hlt, (mem_octets_iff hc).mp (List.mem_of_getElem? h)⟩)
  · exact .inl heq
  · obtain ⟨k, rfl⟩ : ∃ k, n = (octets a).length + (k + 1) := ⟨n - (octets a).length - 1, by omega⟩
    rw [List.getElem?_append_right (Nat.le_add_right _ _), Nat.add_sub_cancel_left,
      List.getElem?_cons_succ] at h
    exact .inr (.inr ⟨hgt, (mem_octets_iff hc).mp (List.mem_of_getElem? h)⟩)

theorem isFirstByte_iff (hc : c.toNat ≤ 127) (ha : c ∉ a) :
    IsFirstByte (UInt8.ofNat c.toNat) (a ++ c :: b) n ↔ n = byteLength a := by
  constructor
  · rintro ⟨hn, hfirst⟩
    rcases getElem?_octets_cases hc hn with heq | ⟨-, hmem⟩ | ⟨hlt, -⟩
    · exact heq
    · exact absurd hmem ha
    · exact absurd (getElem?_octets hc a b) (hfirst _ hlt)
  · rintro rfl
    refine ⟨getElem?_octets hc a b, fun k hk hbyte => ?_⟩
    rcases getElem?_octets_cases hc hbyte with heq | ⟨-, hmem⟩ | ⟨hlt, -⟩
    · omega
    · exact ha hmem
    · omega

theorem isLastByte_iff (hc : c.toNat ≤ 127) (hb : c ∉ b) :
    IsLastByte (UInt8.ofNat c.toNat) (a ++ c :: b) n ↔ n = byteLength a := by
  constructor
  · rintro ⟨hn, hlast⟩
    rcases getElem?_octets_cases hc hn with heq | ⟨hlt, -⟩ | ⟨-, hmem⟩
    · exact heq
    · exact absurd (getElem?_octets hc a b) (hlast _ hlt)
    · exact absurd hmem hb
  · rintro rfl
    refine ⟨getElem?_octets hc a b, fun k hk hbyte => ?_⟩
    rcases getElem?_octets_cases hc hbyte with heq | ⟨hlt, -⟩ | ⟨-, hmem⟩
    · omega
    · omega
    · exact hb hmem

end Text

namespace Insertion

open Text

variable {source before after : Text}

theorem cut?_eq_none_iff :
    cut? source = none ↔ ∀ a b, source = a ++ '\x7b' :: b → '\x7b' ∉ a → '\x7d' ∉ b := by
  constructor
  · rintro hcut a b rfl ha
    rw [cut?_append_brace ha, Option.map_eq_none_iff] at hcut
    exact cutAtLast?_eq_none_iff.mp hcut
  · intro h
    by_cases hmem : '\x7b' ∈ source
    · obtain ⟨a, b, hsource, ha⟩ := List.eq_append_cons_of_mem hmem
      rw [hsource, cut?_append_brace ha, cutAtLast?_eq_none_iff.mpr (h a b hsource ha)]
      rfl
    · have hnil : source.dropWhile (· != '\x7b') = [] := by
        rw [List.dropWhile_eq_nil_iff]
        intro c hc
        simpa using fun heq : c = '\x7b' => hmem (heq ▸ hc)
      rw [cut?, hnil]

/-- The place is that of the last closing brace, and the first opening brace stands before it. -/
theorem offset?_eq_some_iff {o : Nat} :
    offset? source = some o ↔
      IsLastByte 0x7d source o ∧ ∃ i < o, IsFirstByte 0x7b source i := by
  constructor
  · intro h
    obtain ⟨⟨before, after⟩, hcut, rfl⟩ := Option.map_eq_some_iff.mp h
    obtain ⟨rest, rfl, rfl, hrest, hbefore⟩ := cut?_eq_some_iff.mp hcut
    obtain ⟨a, b, rfl, ha⟩ := List.eq_append_cons_of_mem hbefore
    refine ⟨(isLastByte_iff (by decide) hrest).mpr rfl, byteLength a, ?_, ?_⟩
    · have hpos := byteLength_pos (List.cons_ne_nil '\x7b' b)
      dsimp only
      rw [byteLength_append]
      omega
    · rw [List.append_assoc, List.cons_append]
      exact (isFirstByte_iff (by decide) ha).mpr rfl
  · rintro ⟨hlast, i, hi, hfirst⟩
    have hclosing : '\x7d' ∈ source :=
      (mem_octets_iff (by decide)).mp (List.mem_of_getElem? hlast.1)
    have hopening : '\x7b' ∈ source :=
      (mem_octets_iff (by decide)).mp (List.mem_of_getElem? hfirst.1)
    obtain ⟨⟨before, after⟩, hcut⟩ :=
      Option.ne_none_iff_exists'.mp fun hnone => absurd hclosing (cutAtLast?_eq_none_iff.mp hnone)
    obtain ⟨rest, rfl, hsource, hrest⟩ := cutAtLast?_eq_some_iff.mp hcut
    obtain ⟨a, b, hsource', ha⟩ := List.eq_append_cons_of_mem hopening
    obtain rfl : o = byteLength before := (isLastByte_iff (by decide) hrest).mp (hsource ▸ hlast)
    obtain rfl : i = byteLength a := (isFirstByte_iff (by decide) ha).mp (hsource' ▸ hfirst)
    have hbefore : '\x7b' ∈ before := by
      rcases List.append_eq_append_iff.mp (hsource.symm.trans hsource') with
        ⟨x, rfl, -⟩ | ⟨x, rfl, hx⟩
      · rw [byteLength_append] at hi
        omega
      · cases x with
        | nil => simp at hi
        | cons c x =>
          obtain ⟨rfl, -⟩ := List.cons.inj hx
          simp
    exact offset?_of_cut? (cut?_eq_some_iff.mpr ⟨rest, rfl, hsource, hrest, hbefore⟩)

theorem insert?_eq_none_iff {code : Text} : insert? source code = none ↔ offset? source = none := by
  rw [insert?, offset?, Option.map_eq_none_iff, Option.map_eq_none_iff]

/-- The place is where the text is cut, and code put there moves it by its own length. -/
theorem exists_cut_of_offset? {o : Nat} (h : offset? source = some o) (code : Text) :
    ∃ before after, cutAtByte? o source = some (before, after) ∧
      insert? source code = some (before ++ code ++ after) ∧
      offset? (before ++ code ++ after) = some (o + byteLength code) := by
  obtain ⟨⟨before, after⟩, hcut, rfl⟩ := Option.map_eq_some_iff.mp h
  refine ⟨before, after, ?_, insert?_of_cut? hcut code, ?_⟩
  · obtain ⟨rest, rfl, rfl, -⟩ := cut?_eq_some_iff.mp hcut
    exact cutAtByte?_append before _
  · rw [offset?_of_cut? (cut?_insert hcut code), byteLength_append]

/-- Two codes put in one after the other stand in their order. -/
theorem insert?_bind_insert? (source code code' : Text) :
    (insert? source code).bind (insert? · code') = insert? source (code ++ code') := by
  cases hcut : cut? source with
  | none => rw [insert?, insert?, hcut]; rfl
  | some p =>
    obtain ⟨before, after⟩ := p
    rw [insert?_of_cut? hcut, insert?_of_cut? hcut, Option.bind_some,
      insert?_of_cut? (cut?_insert hcut code)]
    simp

/-- Codes put in one after the other make the same text as all of them put in at once. -/
theorem foldlM_insert? (source code : Text) (codes : List Text) :
    (code :: codes).foldlM insert? source = insert? source (code :: codes).flatten := by
  induction codes generalizing source code with
  | nil => simp
  | cons code' codes ih =>
    rw [List.foldlM_cons, funext fun s => ih s code']
    exact insert?_bind_insert? source code _

/-- Insertion acts on sources like appending. The place is that of the last closing brace, provided
that the first opening one stands before it. Code put there fails just if there is no place, and
moves the place by its own length, so codes put in one after the other stand in their order. -/
theorem insertions_append_in_order (source : Text) :
    (offset? source = none ↔ ∀ a b, source = a ++ '\x7b' :: b → '\x7b' ∉ a → '\x7d' ∉ b) ∧
    (∀ o, offset? source = some o ↔
      IsLastByte 0x7d source o ∧ ∃ i < o, IsFirstByte 0x7b source i) ∧
    (∀ code, insert? source code = none ↔ offset? source = none) ∧
    (∀ o code, offset? source = some o → ∃ before after,
      cutAtByte? o source = some (before, after) ∧
        insert? source code = some (before ++ code ++ after) ∧
        offset? (before ++ code ++ after) = some (o + byteLength code)) ∧
    (∀ code code', (insert? source code).bind (insert? · code') = insert? source (code ++ code')) ∧
    ∀ code codes,
      (code :: codes).foldlM insert? source = insert? source (code :: codes).flatten := by
  refine ⟨?_, fun o => offset?_eq_some_iff, fun code => insert?_eq_none_iff,
    fun o code h => exists_cut_of_offset? h code, insert?_bind_insert? source,
    foldlM_insert? source⟩
  rw [offset?, Option.map_eq_none_iff, cut?_eq_none_iff]

/-- Unbalanced codes, put one after the other into a class whose name is not ASCII. -/
theorem unbalancedCodes_append_in_order :
    offset? "class Ä \x7b\x7d" = some 10 ∧
      IsLastByte 0x7d "class Ä \x7b\x7d" 10 ∧
      (∃ i < 10, IsFirstByte 0x7b "class Ä \x7b\x7d" i) ∧
      (∃ before after, cutAtByte? 10 "class Ä \x7b\x7d" = some (before, after) ∧
        offset? (before ++ "\x7d\x7d".toList ++ after) = some 12) ∧
      ["\x7d\x7d".toList, "\x7b".toList].foldlM insert? "class Ä \x7b\x7d" =
        some "class Ä \x7b\x7d\x7d\x7b\x7d".toList := by
  have hplace : offset? "class Ä \x7b\x7d" = some 10 := by decide
  obtain ⟨-, hoffset, -, hinsert, -, hcodes⟩ := insertions_append_in_order "class Ä \x7b\x7d"
  obtain ⟨hlast, hfirst⟩ := (hoffset 10).mp hplace
  obtain ⟨before, after, hcut, -, hnext⟩ := hinsert 10 "\x7d\x7d" hplace
  refine ⟨hplace, hlast, hfirst, ⟨before, after, hcut, hnext⟩, (hcodes _ _).trans ?_⟩
  decide

end Insertion

namespace Method

theorem bars_of_closingBrace_notMem {name : Text} (h : '\x7d' ∉ name) : Bars name '\x7d' := by
  refine ⟨by decide, by decide, by decide, fun x hx heq => ?_⟩
  have hbrace : fold '\x7d' = '\x7d' := by decide
  rw [hbrace] at heq
  rcases fold_eq_self_or x with hself | hname
  · exact h (heq ▸ hself.symm ▸ hx)
  · rw [heq] at hname
    cases hname

/-- A declared method stays declared when code is put in. -/
theorem declares_of_insert? {source code grown name : Text} (hname : Bars name '\x7d')
    (h : Insertion.insert? source code = some grown) (hd : declares source name = true) :
    declares grown name = true := by
  obtain ⟨⟨before, after⟩, hcut, rfl⟩ := Option.map_eq_some_iff.mp h
  obtain ⟨rest, rfl, hsource, -, -⟩ := Insertion.cut?_eq_some_iff.mp hcut
  rw [hsource] at hd
  exact declares_insert code hname hd

/-- A source declares a method just if a spelling of its declaration stands where a word can begin.
The answer depends on the name up to letter case, and code put into the source does not take a
method away whose name holds no closing brace. -/
theorem declares_exactly_spelled_methods (source name : Text) :
    (declares source name = true ↔
      ∃ p d rest, source = p ++ d ++ rest ∧ Spelling name d ∧ EndsWord p) ∧
    (∀ name' : Text, name'.map fold = name.map fold →
      declares source name' = declares source name) ∧
    ('\x7d' ∉ name → declares source name = true →
      ∀ code grown, Insertion.insert? source code = some grown → declares grown name = true) := by
  refine ⟨declares_iff, fun name' hfold => ?_, fun hname hd code grown hgrown => ?_⟩
  · rw [Bool.eq_iff_iff]
    exact declares_congr hfold
  · exact declares_of_insert? (bars_of_closingBrace_notMem hname) hgrown hd

/-- A class with a method whose name begins with a tab and an ampersand, in other letters. -/
def oddClass : Text :=
  "class A \x7b FUNCTION \t&\u212aL (\x7d"

/-- White space and an ampersand may belong to the name: taken as the gap and the mark, they would
leave the name unfound. -/
theorem oddClass_declares_odd_name :
    declares oddClass "\t&kl" = true ∧
      (∃ p d rest, oddClass = p ++ d ++ rest ∧ Spelling "\t&kl" d ∧ EndsWord p) ∧
      declares oddClass "\t&Kl" = true ∧
      ∃ grown, Insertion.insert? oddClass "\x7d x" = some grown ∧
        declares grown "\t&kl" = true := by
  have hd : declares oddClass "\t&kl" = true := by decide +kernel
  have hgrown : Insertion.insert? oddClass "\x7d x" =
      some "class A \x7b FUNCTION \t&\u212aL (\x7d x\x7d".toList := by decide
  obtain ⟨hspelled, hcase, hgrows⟩ := declares_exactly_spelled_methods oddClass "\t&kl"
  exact ⟨hd, hspelled.mp hd, (hcase "\t&Kl" (by decide)).trans hd, _, hgrown,
    hgrows (by decide) hd _ _ hgrown⟩

end Method

end Accessors

import Accessors.Proofs.TextLaws

/-!
# The order of texts is that of their bytes

Names are kept in the order of their characters. UTF-8 gives a greater character a greater run of
bytes, and neither run begins the other, so this is also the order of the bytes.
-/

namespace Accessors

namespace Text

def octets (t : Text) : List UInt8 :=
  (toBytes t).data.toList

theorem octets_eq_flatMap (t : Text) : octets t = t.flatMap String.utf8EncodeChar := by
  rw [octets, toBytes, String.toUTF8_eq_toByteArray]
  exact congrArg Array.toList List.data_toByteArray

theorem octets_cons (c : Char) (t : Text) :
    octets (c :: t) = String.utf8EncodeChar c ++ octets t := by
  rw [octets_eq_flatMap, octets_eq_flatMap, List.flatMap_cons]

theorem ofNat_lt_ofNat {m n : Nat} (hm : m < 256) (hn : n < 256) :
    UInt8.ofNat m < UInt8.ofNat n ↔ m < n := by
  rw [UInt8.lt_iff_toNat_lt, UInt8.toNat_ofNat_of_lt' hm, UInt8.toNat_ofNat_of_lt' hn]

theorem ofNat_eq_ofNat {m n : Nat} (hm : m < 256) (hn : n < 256) :
    UInt8.ofNat m = UInt8.ofNat n ↔ m = n := by
  rw [← UInt8.toNat_inj, UInt8.toNat_ofNat_of_lt' hm, UInt8.toNat_ofNat_of_lt' hn]

/-- Numbers compare as their digits in base 64 do. -/
theorem sextets_lt {v w : Nat} (h : v < w) :
    v / 262144 < w / 262144 ∨ v / 262144 = w / 262144 ∧
      (v / 4096 % 64 < w / 4096 % 64 ∨ v / 4096 % 64 = w / 4096 % 64 ∧
        (v / 64 % 64 < w / 64 % 64 ∨ v / 64 % 64 = w / 64 % 64 ∧ v % 64 < w % 64)) := by
  have hdigit : ∀ m n : Nat, m ≤ n → m / 64 < n / 64 ∨ m / 64 = n / 64 ∧ m % 64 ≤ n % 64 := by
    omega
  have hquotients : ∀ n : Nat, n / 64 / 64 = n / 4096 ∧ n / 4096 / 64 = n / 262144 := by
    intro n
    simp only [Nat.div_div_eq_div_mul, Nat.reduceMul, and_self]
  have hv := hquotients v
  have hw := hquotients w
  have hfirst := hdigit v w (by omega)
  have hsecond := hdigit (v / 64) (w / 64) (by omega)
  have hthird := hdigit (v / 4096) (w / 4096) (by omega)
  omega

/-- The bytes of characters compare as the characters do, whatever follows them. -/
theorem utf8EncodeChar_append_lt {c d : Char} (h : c < d) (s t : List UInt8) :
    String.utf8EncodeChar c ++ s < String.utf8EncodeChar d ++ t := by
  have hlt : c.val.toNat < d.val.toNat := h
  have hrange : d.val.toNat < 1114112 := by
    rcases d.valid with hd | hd <;> omega
  have hsextets := sextets_lt hlt
  unfold String.utf8EncodeChar
  generalize c.val.toNat = v at *
  generalize d.val.toNat = w at *
  have hlead : v / 262144 % 8 = v / 262144 ∧ w / 262144 % 8 = w / 262144 := by omega
  dsimp only
  -- Each character has one to four bytes. More bytes come with a greater first byte, and of as
  -- many bytes each but the first holds a digit.
  repeat' split
  all_goals
    simp only [List.cons_append, List.nil_append, List.cons_lt_cons_iff]
    simp (disch := omega) only [ofNat_lt_ofNat, ofNat_eq_ofNat]
    omega

theorem octets_lt_of_lt {a b : Text} (h : a < b) : octets a < octets b := by
  induction a generalizing b with
  | nil =>
    cases b with
    | nil => exact absurd h (List.not_lt_nil [])
    | cons d b =>
      obtain ⟨x, xs, hx⟩ := List.exists_cons_of_ne_nil (String.utf8EncodeChar_ne_nil (c := d))
      rw [octets_cons, hx]
      exact List.nil_lt_cons x _
  | cons c a ih =>
    cases b with
    | nil => exact absurd h (List.not_lt_nil _)
    | cons d b =>
      rw [octets_cons, octets_cons]
      rcases List.cons_lt_cons_iff.mp h with hlt | ⟨rfl, hlt⟩
      · exact utf8EncodeChar_append_lt hlt _ _
      · exact List.append_left_lt (ih hlt)

theorem lt_iff_octets_lt {a b : Text} : a < b ↔ octets a < octets b := by
  refine ⟨octets_lt_of_lt, fun h => ?_⟩
  by_contra hnot
  rcases Std.le_iff_lt_or_eq.mp (Std.not_lt.mp hnot) with hlt | rfl
  · exact Std.lt_irrefl (Std.lt_trans h (octets_lt_of_lt hlt))
  · exact Std.lt_irrefl h

end Text

end Accessors

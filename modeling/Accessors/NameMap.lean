import Accessors.Text.Basic

/-!
# Tables keyed by name

A table lists its entries in ascending order of their names, character by character, which is
also the order of their UTF-8 forms. Each name occurs once, so two tables with the same
entries are equal.
-/

namespace Accessors

structure NameMap (α : Type) where
  entries : List (Text × α)
  sorted : entries.Pairwise fun a b => a.1 < b.1
  deriving DecidableEq

namespace NameMap

variable {α : Type}

def empty : NameMap α where
  entries := []
  sorted := .nil

instance : EmptyCollection (NameMap α) where
  emptyCollection := empty

instance : Inhabited (NameMap α) where
  default := empty

/-- Puts an entry in its place and drops an older one of the same name. -/
def insertEntry (k : Text) (a : α) : List (Text × α) → List (Text × α)
  | [] => [(k, a)]
  | e :: rest =>
    if k < e.1 then (k, a) :: e :: rest
    else if k = e.1 then (k, a) :: rest
    else e :: insertEntry k a rest

theorem mem_insertEntry {k : Text} {a : α} {e : Text × α} {l : List (Text × α)}
    (h : e ∈ insertEntry k a l) : e = (k, a) ∨ e ∈ l := by
  induction l with
  | nil => simpa [insertEntry] using h
  | cons d rest ih =>
    rw [insertEntry] at h
    split at h
    · simpa using h
    · split at h
      · rcases List.mem_cons.mp h with h | h
        · exact .inl h
        · exact .inr (List.mem_cons_of_mem _ h)
      · rcases List.mem_cons.mp h with h | h
        · exact .inr (h ▸ List.mem_cons_self)
        · exact (ih h).imp_right (List.mem_cons_of_mem _)

theorem insertEntry_sorted {k : Text} {a : α} {l : List (Text × α)}
    (h : l.Pairwise fun a b => a.1 < b.1) :
    (insertEntry k a l).Pairwise fun a b => a.1 < b.1 := by
  induction l with
  | nil => simp [insertEntry]
  | cons d rest ih =>
    obtain ⟨hd, hr⟩ := List.pairwise_cons.mp h
    rw [insertEntry]
    split
    · next hk =>
      refine List.pairwise_cons.mpr ⟨fun e he => ?_, h⟩
      rcases List.mem_cons.mp he with rfl | he
      · exact hk
      · exact Std.lt_trans hk (hd e he)
    · next hk =>
      split
      · next heq =>
        exact List.pairwise_cons.mpr ⟨fun e he => heq ▸ hd e he, hr⟩
      · next hne =>
        refine List.pairwise_cons.mpr ⟨fun e he => ?_, ih hr⟩
        rcases mem_insertEntry he with rfl | he
        · exact Std.lt_of_le_of_ne (Std.not_lt.mp hk) (Ne.symm hne)
        · exact hd e he

/-- Adds an entry; a second entry of one name replaces the first. -/
def insert (m : NameMap α) (k : Text) (a : α) : NameMap α where
  entries := insertEntry k a m.entries
  sorted := insertEntry_sorted m.sorted

def find? (m : NameMap α) (k : Text) : Option α :=
  m.entries.lookup k

def contains (m : NameMap α) (k : Text) : Bool :=
  (m.find? k).isSome

def names (m : NameMap α) : List Text :=
  m.entries.map Prod.fst

def size (m : NameMap α) : Nat :=
  m.entries.length

def isEmpty (m : NameMap α) : Bool :=
  m.entries.isEmpty

end NameMap

end Accessors

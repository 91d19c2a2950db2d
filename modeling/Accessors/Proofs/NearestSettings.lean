import Accessors.Disk.FileTree
import Accessors.Proofs.TextLaws
import Accessors.Settings.Discovery

/-!
# The nearest settings

The search for settings starts at a directory and goes up, parent by parent. For a directory given
by names the parents are the directories of its first names, so the search sees the longest
beginning of the names first and stops at the first one that has a settings file. What is found
there counts, whether it can be used or not.
-/

namespace Accessors

open Text

namespace Path

/-- A name that leads one directory down: not empty, without slashes, and neither the directory
itself nor its parent. -/
structure Normal (n : Text) : Prop where
  ne_nil : n ≠ []
  noSlash : '/' ∉ n
  ne_dot : n ≠ ['.']
  ne_dots : n ≠ ['.', '.']

variable {n : Text} {names : List Text} {absolute : Bool}

theorem Normal.reverse (h : Normal n) : Normal n.reverse where
  ne_nil := by simpa using h.ne_nil
  noSlash := by simpa using h.noSlash
  ne_dot := by simpa using h.ne_dot
  ne_dots := by simpa using h.ne_dots

/-- A path that begins with a name begins neither with a slash nor with a lone dot. -/
theorem Normal.append_ne (h : Normal n) (r : Text) :
    (∀ u, n ++ r ≠ '/' :: u) ∧ (∀ u, n ++ r ≠ '.' :: '/' :: u) ∧ n ++ r ≠ ['.'] := by
  obtain ⟨c, m, rfl⟩ := List.exists_cons_of_ne_nil h.ne_nil
  have hc : c ≠ '/' := by
    rintro rfl
    exact h.noSlash List.mem_cons_self
  refine ⟨fun u hu => hc (List.cons.inj hu).1, fun u hu => ?_, fun hdot => ?_⟩
  · obtain ⟨rfl, hrest⟩ := List.cons.inj hu
    cases m with
    | nil => exact h.ne_dot rfl
    | cons d m =>
      obtain ⟨rfl, -⟩ := List.cons.inj hrest
      exact h.noSlash (by simp)
  · obtain ⟨rfl, hm⟩ := List.cons.inj hdot
    rw [(List.append_eq_nil_iff.mp hm).1] at h
    exact h.ne_dot rfl

theorem Normal.start_append (h : Normal n) (r : Text) : start (n ++ r) = [] := by
  obtain ⟨hslash, hdotSlash, hdot⟩ := h.append_ne r
  unfold start
  split
  · next u hu => exact absurd hu (hslash u)
  · next u hu => exact absurd hu (hdotSlash u)
  · next hu => exact absurd hu hdot
  · rfl

/-- Nothing is dropped from a path that ends in a name, given in reverse. -/
theorem Normal.trimEnd_append (h : Normal n) (r : Text) :
    trimEnd (n.reverse ++ r) = n.reverse ++ r := by
  obtain ⟨hslash, hdotSlash, hdot⟩ := h.reverse.append_ne r
  unfold trimEnd
  split
  · next u hu => exact absurd hu (hslash u)
  · next u hu => exact absurd hu (hdotSlash u)
  · next hu => exact absurd hu hdot
  · rfl

theorem exists_joinWith_cons (n : Text) (names : List Text) :
    ∃ r, joinWith ['/'] (n :: names) = n ++ r := by
  cases names with
  | nil => exact ⟨[], by simp [joinWith]⟩
  | cons m names => exact ⟨'/' :: joinWith ['/'] (m :: names), by simp [joinWith]⟩

theorem joinWith_concat (hne : names ≠ []) (n : Text) :
    joinWith ['/'] (names ++ [n]) = joinWith ['/'] names ++ '/' :: n := by
  rw [joinWith_append ['/'] hne (List.cons_ne_nil n [])]
  simp [joinWith]

theorem reverse_joinWith_concat (hne : names ≠ []) (n : Text) :
    (joinWith ['/'] (names ++ [n])).reverse =
      n.reverse ++ '/' :: (joinWith ['/'] names).reverse := by
  rw [joinWith_concat hne]
  simp

/-- A path given by names ends in the last of them. -/
theorem exists_ofNames_concat (absolute : Bool) (names : List Text) (n : Text) :
    ∃ a, ofNames absolute (names ++ [n]) = a ++ n := by
  by_cases hne : names = []
  · exact ⟨if absolute then ['/'] else [], by simp [ofNames, joinWith, hne]⟩
  · refine ⟨ofNames absolute names ++ ['/'], ?_⟩
    rw [ofNames, joinWith_concat hne, ofNames]
    simp

theorem start_ofNames (hnames : ∀ n ∈ names, Normal n) :
    start (ofNames absolute names) = if absolute then ['/'] else [] := by
  cases absolute with
  | true => rfl
  | false =>
    cases names with
    | nil => rfl
    | cons n names =>
      obtain ⟨r, hr⟩ := exists_joinWith_cons n names
      have hstart := (hnames n List.mem_cons_self).start_append r
      rw [← hr] at hstart
      exact hstart

theorem drop_start_ofNames (hnames : ∀ n ∈ names, Normal n) :
    (ofNames absolute names).drop (start (ofNames absolute names)).length =
      joinWith ['/'] names := by
  rw [start_ofNames hnames, ofNames, List.drop_left]

/-- The names in reverse, from the last one on, lose nothing. -/
theorem trimEnd_joinWith (hnames : ∀ n ∈ names, Normal n) :
    trimEnd (joinWith ['/'] names).reverse = (joinWith ['/'] names).reverse := by
  rcases List.eq_nil_or_concat names with rfl | ⟨ns, n, rfl⟩
  · rfl
  · have hn : Normal n := hnames n (by simp)
    rw [List.concat_eq_append]
    by_cases hne : ns = []
    · have htrim := hn.trimEnd_append []
      simpa [hne, joinWith] using htrim
    · rw [reverse_joinWith_concat hne]
      exact hn.trimEnd_append _

theorem body_ofNames (hnames : ∀ n ∈ names, Normal n) :
    body (ofNames absolute names) = (joinWith ['/'] names).reverse := by
  rw [body, drop_start_ofNames hnames, trimEnd_joinWith hnames]

theorem parent?_ofNames_nil : parent? (ofNames absolute []) = none := by
  cases absolute <;> rfl

/-- The parent of a path given by names is given by all names but the last. -/
theorem parent?_ofNames_concat (hnames : ∀ n ∈ names, Normal n) (hn : Normal n) :
    parent? (ofNames absolute (names ++ [n])) = some (ofNames absolute names) := by
  have hall : ∀ m ∈ names ++ [n], Normal m := by
    simpa [or_imp, forall_and] using ⟨hnames, hn⟩
  have hslash : ∀ c ∈ n.reverse, (c != '/') = true := by
    intro c hc
    rw [bne_iff_ne]
    rintro rfl
    exact hn.noSlash (List.mem_reverse.mp hc)
  have hdrop : trimEnd ((joinWith ['/'] (names ++ [n])).reverse.dropWhile (· != '/')) =
      (joinWith ['/'] names).reverse := by
    by_cases hne : names = []
    · subst hne
      have hnil : n.reverse.dropWhile (· != '/') = [] := List.dropWhile_eq_nil_iff.mpr hslash
      simp [joinWith, hnil, trimEnd]
    · rw [reverse_joinWith_concat hne, List.dropWhile_append_of_pos hslash]
      exact trimEnd_joinWith hnames
  rw [parent?, body_ofNames hall, start_ofNames hall]
  split
  · next hnil =>
    obtain ⟨a, b, hab⟩ : ∃ a b, joinWith ['/'] (names ++ [n]) = a ++ n ++ b :=
      exists_joinWith_eq_append (by simp)
    rw [List.reverse_eq_nil_iff, hab] at hnil
    simp only [List.append_eq_nil_iff] at hnil
    exact absurd hnil.1.2 hn.ne_nil
  · rw [hdrop, List.reverse_reverse, ofNames]

/-- A name joined to a path given by names is one more name. -/
theorem join_ofNames (hnames : ∀ n ∈ names, Normal n) (n : Text) :
    join (ofNames absolute names) n = ofNames absolute (names ++ [n]) := by
  rcases List.eq_nil_or_concat names with rfl | ⟨ms, m, rfl⟩
  · cases absolute <;> simp [join, ofNames, joinWith, endsIn]
  · rw [List.concat_eq_append] at hnames ⊢
    have hm : Normal m := hnames m (by simp)
    obtain ⟨a, ha⟩ := exists_ofNames_concat absolute ms m
    have hne : (ofNames absolute (ms ++ [m])).isEmpty = false := by
      simp [ha, hm.ne_nil]
    have hend : endsIn ['/'] (ofNames absolute (ms ++ [m])) = false := by
      rw [Bool.eq_false_iff, endsIn, ne_eq, List.isSuffixOf_iff_suffix, ha]
      rintro ⟨b, hb⟩
      have hlast := congrArg List.getLast? hb
      rw [List.getLast?_concat, List.getLast?_append_of_ne_nil _ hm.ne_nil] at hlast
      exact hm.noSlash (List.mem_of_getLast? hlast.symm)
    have hnames' : ms ++ [m] ≠ [] := by simp
    rw [join, hne, hend, ofNames, ofNames, joinWith_concat hnames']
    simp

end Path

namespace Settings

/-- The search for settings, step by step: a directory with a settings file ends it, one without a
parent too, and any other leads to its parent. -/
inductive Search (disk : Disk) : Text → Option Text → Prop
  | found {dir : Text} (hfile : disk.isFile (Path.join dir fileName) = true) :
      Search disk dir (some (Path.join dir fileName))
  | ended {dir : Text} (hfile : disk.isFile (Path.join dir fileName) = false)
      (htop : Path.parent? dir = none) : Search disk dir none
  | up {dir parent : Text} {result : Option Text}
      (hfile : disk.isFile (Path.join dir fileName) = false)
      (hparent : Path.parent? dir = some parent) (hrest : Search disk parent result) :
      Search disk dir result

variable {disk : Disk} {dir : Text}

theorem find?_of_isFile (h : disk.isFile (Path.join dir fileName) = true) :
    find? disk dir = some (Path.join dir fileName) := by
  rw [find?, candidates, Path.ancestors, List.map_cons, List.find?_cons_of_pos h]

theorem find?_of_not_isFile (h : disk.isFile (Path.join dir fileName) = false) :
    find? disk dir = (Path.parent? dir).bind (find? disk) := by
  rw [find?, candidates, Path.ancestors, List.map_cons, List.find?_cons_of_neg (by simp [h])]
  split
  · next parent hparent =>
    rw [hparent]
    rfl
  · next hparent =>
    rw [hparent]
    rfl

theorem search_find? (disk : Disk) (dir : Text) : Search disk dir (find? disk dir) := by
  induction dir using Path.ancestors.induct with
  | case1 dir ih =>
    cases hfile : disk.isFile (Path.join dir fileName) with
    | true =>
      rw [find?_of_isFile hfile]
      exact .found hfile
    | false =>
      rw [find?_of_not_isFile hfile]
      cases hparent : Path.parent? dir with
      | none => exact .ended hfile hparent
      | some parent => exact .up hfile hparent (ih parent hparent)

/-- The search ends, and in one way. -/
theorem search_iff {result : Option Text} : Search disk dir result ↔ find? disk dir = result := by
  constructor
  · intro h
    induction h with
    | found hfile => exact find?_of_isFile hfile
    | ended hfile htop =>
      rw [find?_of_not_isFile hfile, htop]
      rfl
    | up hfile hparent hrest ih =>
      rw [find?_of_not_isFile hfile, hparent]
      exact ih
  · rintro rfl
    exact search_find? disk dir

/-- Where the settings of a directory are, given by the first `k` of the names. -/
def settingsAt (absolute : Bool) (names : List Text) (k : Nat) : Text :=
  Path.ofNames absolute (names.take k ++ [fileName])

/-- The directory of the first `k` names has a regular settings file, readable or not. -/
def HasSettings (disk : Disk) (absolute : Bool) (names : List Text) (k : Nat) : Prop :=
  disk.isFile (settingsAt absolute names k) = true

/-- Of the directories on the way to the names, the one of the first `k` is the deepest with a
regular settings file. -/
structure IsNearest (disk : Disk) (absolute : Bool) (names : List Text) (k : Nat) : Prop where
  le : k ≤ names.length
  file : HasSettings disk absolute names k
  deepest : ∀ j ≤ names.length, HasSettings disk absolute names j → j ≤ k

variable {absolute : Bool} {names : List Text}

theorem IsNearest.unique {j k : Nat} (hj : IsNearest disk absolute names j)
    (hk : IsNearest disk absolute names k) : j = k :=
  Nat.le_antisymm (hk.deepest j hj.le hj.file) (hj.deepest k hk.le hk.file)

theorem join_take (hnames : ∀ n ∈ names, Path.Normal n) (k : Nat) :
    Path.join (Path.ofNames absolute (names.take k)) fileName = settingsAt absolute names k :=
  Path.join_ofNames (fun n hn => hnames n (List.mem_of_mem_take hn)) fileName

/-- The parent of the directory of some names is that of one name less. -/
theorem parent?_take (hnames : ∀ n ∈ names, Path.Normal n) {k : Nat} (hk : k < names.length) :
    Path.parent? (Path.ofNames absolute (names.take (k + 1))) =
      some (Path.ofNames absolute (names.take k)) := by
  rw [List.take_succ_eq_append_getElem hk]
  exact Path.parent?_ofNames_concat (fun n hn => hnames n (List.mem_of_mem_take hn))
    (hnames _ (List.getElem_mem hk))

theorem find?_take_of_hasSettings (hnames : ∀ n ∈ names, Path.Normal n) {k : Nat}
    (h : HasSettings disk absolute names k) :
    find? disk (Path.ofNames absolute (names.take k)) = some (settingsAt absolute names k) := by
  rw [HasSettings, ← join_take hnames] at h
  rw [← join_take hnames]
  exact find?_of_isFile h

theorem find?_take_of_not_hasSettings (hnames : ∀ n ∈ names, Path.Normal n) {k : Nat}
    (h : ¬HasSettings disk absolute names k) :
    find? disk (Path.ofNames absolute (names.take k)) =
      (Path.parent? (Path.ofNames absolute (names.take k))).bind (find? disk) := by
  rw [HasSettings, ← join_take hnames, Bool.not_eq_true] at h
  exact find?_of_not_isFile h

/-- What the search finds from the directory of the first `m` names: the deepest settings file on
the way up, or nothing if there is none. -/
theorem find?_take (disk : Disk) (absolute : Bool) (hnames : ∀ n ∈ names, Path.Normal n) {m : Nat}
    (hm : m ≤ names.length) :
    (∃ k ≤ m, HasSettings disk absolute names k ∧
        (∀ j ≤ m, HasSettings disk absolute names j → j ≤ k) ∧
        find? disk (Path.ofNames absolute (names.take m)) = some (settingsAt absolute names k)) ∨
      (∀ j ≤ m, ¬HasSettings disk absolute names j) ∧
        find? disk (Path.ofNames absolute (names.take m)) = none := by
  induction m with
  | zero =>
    by_cases hfile : HasSettings disk absolute names 0
    · exact .inl
        ⟨0, Nat.le_refl 0, hfile, fun j hj _ => hj, find?_take_of_hasSettings hnames hfile⟩
    · right
      constructor
      · intro j hj
        rwa [Nat.le_zero.mp hj]
      · rw [find?_take_of_not_hasSettings hnames hfile, List.take_zero, Path.parent?_ofNames_nil]
        rfl
  | succ m ih =>
    by_cases hfile : HasSettings disk absolute names (m + 1)
    · exact .inl
        ⟨m + 1, Nat.le_refl _, hfile, fun j hj _ => hj, find?_take_of_hasSettings hnames hfile⟩
    · have hbelow : ∀ j ≤ m + 1, HasSettings disk absolute names j → j ≤ m := by
        intro j hj hfilej
        have hne : j ≠ m + 1 := by
          rintro rfl
          exact hfile hfilej
        omega
      rw [find?_take_of_not_hasSettings hnames hfile, parent?_take hnames hm, Option.bind_some]
      rcases ih (by omega) with ⟨k, hk, hfilek, hdeepest, hfind⟩ | ⟨hnone, hfind⟩
      · left
        refine ⟨k, by omega, hfilek, ?_, hfind⟩
        exact fun j hj hfilej => hdeepest j (hbelow j hj hfilej) hfilej
      · right
        exact ⟨fun j hj hfilej => hnone j (hbelow j hj hfilej) hfilej, hfind⟩

theorem find?_cases (disk : Disk) (absolute : Bool) (hnames : ∀ n ∈ names, Path.Normal n) :
    (∃ k, IsNearest disk absolute names k ∧
        find? disk (Path.ofNames absolute names) = some (settingsAt absolute names k)) ∨
      (∀ k ≤ names.length, ¬HasSettings disk absolute names k) ∧
        find? disk (Path.ofNames absolute names) = none := by
  have hfind := find?_take disk absolute hnames (Nat.le_refl names.length)
  rw [List.take_length] at hfind
  refine hfind.imp_left ?_
  rintro ⟨k, hk, hfile, hdeepest, hfind⟩
  exact ⟨k, ⟨hk, hfile, hdeepest⟩, hfind⟩

theorem find?_ofNames_eq_some_iff (disk : Disk) (absolute : Bool)
    (hnames : ∀ n ∈ names, Path.Normal n) (path : Text) :
    find? disk (Path.ofNames absolute names) = some path ↔
      ∃ k, IsNearest disk absolute names k ∧ path = settingsAt absolute names k := by
  rcases find?_cases disk absolute hnames with ⟨k, hk, hfind⟩ | ⟨hnone, hfind⟩
  · rw [hfind, Option.some.injEq]
    constructor
    · rintro rfl
      exact ⟨k, hk, rfl⟩
    · rintro ⟨j, hj, rfl⟩
      rw [hj.unique hk]
  · rw [hfind]
    constructor
    · intro h
      cases h
    · rintro ⟨k, hk, -⟩
      exact absurd hk.file (hnone k hk.le)

theorem find?_ofNames_eq_none_iff (disk : Disk) (absolute : Bool)
    (hnames : ∀ n ∈ names, Path.Normal n) :
    find? disk (Path.ofNames absolute names) = none ↔
      ∀ k ≤ names.length, ¬HasSettings disk absolute names k := by
  rcases find?_cases disk absolute hnames with ⟨k, hk, hfind⟩ | ⟨hnone, hfind⟩
  · rw [hfind]
    constructor
    · intro h
      cases h
    · intro h
      exact absurd hk.file (h k hk.le)
  · exact iff_of_true hfind hnone

theorem discover_of_find? {path : Text} (h : find? disk dir = some path) :
    discover disk dir = load disk path := by
  rw [discover, h]

theorem load_eq_ok_iff {path : Text} {s : Settings} :
    load disk path = .ok s ↔ ∃ text, disk.read path = .ok text ∧ parse text = .ok s := by
  rw [load]
  cases disk.read path <;> simp

/-- What the search ends with: the defaults if there are no settings on the way, and else what the
nearest settings give. -/
theorem discover_ofNames_eq_iff (disk : Disk) (absolute : Bool)
    (hnames : ∀ n ∈ names, Path.Normal n) (result : Except SettingsError Settings) :
    discover disk (Path.ofNames absolute names) = result ↔
      (∀ k ≤ names.length, ¬HasSettings disk absolute names k) ∧ result = .ok {} ∨
        ∃ k, IsNearest disk absolute names k ∧
          load disk (settingsAt absolute names k) = result := by
  rcases find?_cases disk absolute hnames with ⟨k, hk, hfind⟩ | ⟨hnone, hfind⟩
  · rw [discover_of_find? hfind]
    constructor
    · exact fun h => .inr ⟨k, hk, h⟩
    · rintro (⟨hnone, -⟩ | ⟨j, hj, h⟩)
      · exact absurd hk.file (hnone k hk.le)
      · rwa [hk.unique hj]
  · rw [discover, hfind]
    constructor
    · exact fun h => .inl ⟨hnone, h.symm⟩
    · rintro (⟨-, h⟩ | ⟨k, hk, -⟩)
      · exact h.symm
      · exact absurd hk.file (hnone k hk.le)

theorem discover_eq_error_iff (disk : Disk) (absolute : Bool)
    (hnames : ∀ n ∈ names, Path.Normal n) (e : SettingsError) :
    discover disk (Path.ofNames absolute names) = .error e ↔
      ∃ k, IsNearest disk absolute names k ∧
        load disk (settingsAt absolute names k) = .error e := by
  rw [discover_ofNames_eq_iff disk absolute hnames]
  simp

/-- The defaults come from no settings at all, or from nearest ones that spell them. -/
theorem discover_eq_default_iff (disk : Disk) (absolute : Bool)
    (hnames : ∀ n ∈ names, Path.Normal n) :
    discover disk (Path.ofNames absolute names) = .ok {} ↔
      (∀ k ≤ names.length, ¬HasSettings disk absolute names k) ∨
        ∃ k text, IsNearest disk absolute names k ∧
          disk.read (settingsAt absolute names k) = .ok text ∧ parse text = .ok {} := by
  rw [discover_ofNames_eq_iff disk absolute hnames]
  simp only [and_true, load_eq_ok_iff, exists_and_left]

/-- The search for settings ends, and it finds the settings file of the deepest directory on the way
that has one. A file that is found is loaded, with whatever error that gives, and nothing else
gives one. The defaults result just if there is no such file or the nearest one spells them. -/
theorem discovery_takes_nearest_settings (disk : Disk) (absolute : Bool) {names : List Text}
    (hnames : ∀ n ∈ names, Path.Normal n) :
    (∀ result, Search disk (Path.ofNames absolute names) result ↔
        find? disk (Path.ofNames absolute names) = result) ∧
      (∀ path, find? disk (Path.ofNames absolute names) = some path ↔
        ∃ k, IsNearest disk absolute names k ∧ path = settingsAt absolute names k) ∧
      (find? disk (Path.ofNames absolute names) = none ↔
        ∀ k ≤ names.length, ¬HasSettings disk absolute names k) ∧
      (∀ path, find? disk (Path.ofNames absolute names) = some path →
        discover disk (Path.ofNames absolute names) = load disk path) ∧
      (∀ e, discover disk (Path.ofNames absolute names) = .error e ↔
        ∃ k, IsNearest disk absolute names k ∧
          load disk (settingsAt absolute names k) = .error e) ∧
      (discover disk (Path.ofNames absolute names) = .ok {} ↔
        (∀ k ≤ names.length, ¬HasSettings disk absolute names k) ∨
          ∃ k text, IsNearest disk absolute names k ∧
            disk.read (settingsAt absolute names k) = .ok text ∧ parse text = .ok {}) :=
  ⟨fun _ => search_iff, find?_ofNames_eq_some_iff disk absolute hnames,
    find?_ofNames_eq_none_iff disk absolute hnames, fun _ => discover_of_find?,
    discover_eq_error_iff disk absolute hnames, discover_eq_default_iff disk absolute hnames⟩

/-- A tree with settings below its root, settings that may not be read below them, and a directory
in place of settings below those. -/
def layeredTree : FileTree where
  entries :=
    [(["w".toList], .directory none),
      (["w".toList, "getset.toml".toList], .file { bytes := Text.toBytes "use_tabs = false\n" }),
      (["w".toList, "a".toList], .directory none),
      (["w".toList, "a".toList, "getset.toml".toList],
        .file { bytes := .empty, refusesReading := some .denied }),
      (["w".toList, "a".toList, "b".toList], .directory none),
      (["w".toList, "a".toList, "b".toList, "getset.toml".toList], .directory none)]

def layeredNames : List Text :=
  ["w", "a", "b", "c"]

theorem layeredTree_takes_nearest_settings :
    (∀ n ∈ layeredNames, Path.Normal n) ∧ Path.ofNames true layeredNames = "/w/a/b/c" ∧
      find? layeredTree.disk (Path.ofNames true layeredNames) = some "/w/a/getset.toml".toList ∧
      discover layeredTree.disk (Path.ofNames true layeredNames) =
        .error (.notRead "Permission denied (os error 13)") := by
  have hnames : ∀ n ∈ layeredNames, Path.Normal n := by
    simp only [layeredNames, List.forall_mem_cons]
    refine ⟨?_, ?_, ?_, ?_, by simp⟩
    all_goals exact ⟨by decide, by decide, by decide, by decide⟩
  have hnearest : IsNearest layeredTree.disk true layeredNames 2 := by
    refine ⟨by decide, rfl, fun j hj hfile => ?_⟩
    by_contra hdeeper
    have hcases : j = 3 ∨ j = 4 := by
      have hlength : layeredNames.length = 4 := rfl
      omega
    rcases hcases with rfl | rfl <;> cases hfile
  obtain ⟨-, hsome, -, hload, -⟩ := discovery_takes_nearest_settings layeredTree.disk true hnames
  have hfind := (hsome _).mpr ⟨2, hnearest, rfl⟩
  refine ⟨hnames, rfl, hfind, ?_⟩
  rw [hload _ hfind]
  rfl

def blankTree : FileTree where
  entries :=
    [(["w".toList], .directory none),
      (["w".toList, "getset.toml".toList], .file { bytes := .empty })]

/-- The defaults may result though settings are found. -/
theorem blankTree_spells_defaults :
    find? blankTree.disk (Path.ofNames true ["w"]) = some "/w/getset.toml".toList ∧
      discover blankTree.disk (Path.ofNames true ["w"]) = .ok {} ∧
      ¬(discover blankTree.disk (Path.ofNames true ["w"]) = .ok {} ↔
        find? blankTree.disk (Path.ofNames true ["w"]) = none) := by
  have hfind : find? blankTree.disk (Path.ofNames true ["w"]) = some "/w/getset.toml".toList :=
    find?_of_isFile rfl
  have hdefault : discover blankTree.disk (Path.ofNames true ["w"]) = .ok {} := by
    rw [discover_of_find? hfind]
    decide
  refine ⟨hfind, hdefault, fun hiff => ?_⟩
  rw [hiff.mp hdefault] at hfind
  cases hfind

end Settings

end Accessors

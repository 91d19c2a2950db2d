import Accessors.Command.Run
import Mathlib.Data.List.Find

/-!
# What a run looks at

A run looks at the paths that its command line leads to, and at standard input only if it takes its
source or an answer from there. So it comes to the same on every disk that agrees on those paths,
and a record of them is enough to run on.
-/

namespace Accessors

/-- Two disks with one working directory that show the same at some paths. -/
structure Disk.AgreeOn (paths : List Text) (d d' : Disk) : Prop where
  workingDir : d.workingDir = d'.workingDir
  look : ∀ p ∈ paths, d.look p = d'.look p

namespace Disk.AgreeOn

variable {paths paths' : List Text} {d d' : Disk}

theorem mono (h : AgreeOn paths d d') (hsub : paths' ⊆ paths) : AgreeOn paths' d d' :=
  ⟨h.workingDir, fun p hp => h.look p (hsub hp)⟩

theorem isFile_eq (h : AgreeOn paths d d') {p : Text} (hp : p ∈ paths) :
    d.isFile p = d'.isFile p := by
  rw [isFile, isFile, h.look p hp]

theorem read_eq (h : AgreeOn paths d d') {p : Text} (hp : p ∈ paths) : d.read p = d'.read p := by
  rw [read, read, h.look p hp]

end Disk.AgreeOn

/-- What is recorded at some paths agrees there. -/
theorem Disk.agreeOn_ofEntries (d : Disk) (paths : List Text) :
    AgreeOn paths (.ofEntries d.workingDir (paths.map fun p => (p, d.look p))) d := by
  refine ⟨rfl, fun p hp => ?_⟩
  have hlookup : (paths.map fun p => (p, d.look p)).lookup p = some (d.look p) := by
    induction paths with
    | nil => cases hp
    | cons q paths ih =>
      rw [List.map_cons, List.lookup_cons]
      by_cases hq : p = q
      · simp [hq]
      · rw [beq_eq_false_iff_ne.mpr hq]
        exact ih ((List.mem_cons.mp hp).resolve_left hq)
  simp only [ofEntries, hlookup, Option.getD_some]

variable {d d' : Disk}

namespace Settings

variable {start path : Text}

theorem find?_congr (h : d.AgreeOn (candidates start) d') : find? d start = find? d' start := by
  rw [find?, find?]
  exact List.find?_congr fun p hp => h.isFile_eq hp

theorem load_congr (h : d.read path = d'.read path) : load d path = load d' path := by
  rw [load, load, h]

theorem loadNotices_congr (h : d.read path = d'.read path) :
    loadNotices d path = loadNotices d' path := by
  rw [loadNotices, loadNotices, h]

theorem read_eq_of_find? (h : d.AgreeOn (candidates start) d')
    (hfind : find? d' start = some path) : d.read path = d'.read path :=
  h.read_eq (List.mem_of_find?_eq_some hfind)

theorem discover_congr (h : d.AgreeOn (candidates start) d') :
    discover d start = discover d' start := by
  rw [discover, discover, find?_congr h]
  cases hfind : find? d' start with
  | none => rfl
  | some path => exact load_congr (read_eq_of_find? h hfind)

theorem discoverNotices_congr (h : d.AgreeOn (candidates start) d') :
    discoverNotices d start = discoverNotices d' start := by
  rw [discoverNotices, discoverNotices, find?_congr h]
  cases hfind : find? d' start with
  | none => rfl
  | some path => exact congrArg _ (loadNotices_congr (read_eq_of_find? h hfind))

end Settings

namespace Command

variable {stdin stdin' : ByteArray} {config file : Option Text} {root : Text}
  {a : SourceArguments} {args : List Text}

theorem loadSettings_congr (h : d.AgreeOn (settingsPaths config root) d') :
    loadSettings d config root = loadSettings d' config root := by
  cases config with
  | none => rw [loadSettings, loadSettings, Settings.discover_congr h]
  | some p => rw [loadSettings, loadSettings, Settings.load_congr (h.read_eq List.mem_cons_self)]

theorem loadNotices_congr (h : d.AgreeOn (settingsPaths config root) d') :
    loadNotices d config root = loadNotices d' config root := by
  cases config with
  | none => exact Settings.discoverNotices_congr h
  | some p => exact Settings.loadNotices_congr (h.read_eq List.mem_cons_self)

namespace Input

theorem read_congr (h : d.AgreeOn (path? file).toList d')
    (hstdin : (path? file).isNone → stdin = stdin') : read d stdin file = read d' stdin' file := by
  rw [read, read]
  cases hpath : path? file with
  | none => rw [hstdin (by rw [hpath]; rfl)]
  | some p =>
    rw [hpath] at h
    dsimp only
    rw [h.read_eq List.mem_cons_self]

theorem path_of_read {input : Input} (h : read d stdin file = .ok input) :
    input.path = path? file := by
  rw [read] at h
  split at h
  · next p hp =>
    split at h
    · obtain rfl := Except.ok.inj h
      exact hp.symm
    · cases h
  · next hp =>
    split at h
    · obtain rfl := Except.ok.inj h
      exact hp.symm
    · cases h

end Input

theorem prepare_congr (h : d.AgreeOn (a.paths d.workingDir) d')
    (hstdin : (Input.path? a.file).isNone → stdin = stdin') :
    prepare d stdin a = prepare d' stdin' a := by
  have hsource : d.AgreeOn (Input.path? a.file).toList d' := h.mono (List.subset_append_left _ _)
  rw [prepare, prepare, Input.read_congr hsource hstdin, ← h.workingDir]
  cases hread : Input.read d' stdin' a.file with
  | error f => rfl
  | ok input =>
    have hsettings : d.AgreeOn
        (settingsPaths a.config (Input.settingsRoot d.workingDir input.path)) d' := by
      rw [Input.path_of_read hread]
      exact h.mono (List.subset_append_right _ _)
    dsimp only
    rw [loadSettings_congr hsettings, loadNotices_congr hsettings]

theorem withWorkspace_congr (next : Workspace → Generator → Report)
    (h : d.AgreeOn (a.paths d.workingDir) d')
    (hstdin : (Input.path? a.file).isNone → stdin = stdin') :
    withWorkspace d stdin a next = withWorkspace d' stdin' a next := by
  rw [withWorkspace, withWorkspace, prepare_congr h hstdin]

theorem templates_congr (h : d.AgreeOn (settingsPaths config d.workingDir) d') :
    templates d config = templates d' config := by
  rw [templates, templates, ← h.workingDir, loadSettings_congr h, loadNotices_congr h]

theorem Action.run_congr {action : Action} (h : d.AgreeOn (action.paths d.workingDir) d')
    (hstdin : action.readsInput = true → stdin = stdin') :
    action.run d stdin = action.run d' stdin' := by
  cases action with
  | generate kind source name write => exact withWorkspace_congr _ h hstdin
  | list source json => exact withWorkspace_congr _ h hstdin
  | pick source kind write =>
    obtain rfl := hstdin rfl
    exact withWorkspace_congr _ h fun _ => rfl
  | templates config => exact templates_congr h

section

variable {m : Type → Type} [Monad m] (write : Text → ByteArray → m (Except OsError Unit))
  (filter : Option Text)

/-- A run comes to the same on disks that agree where it looks. -/
theorem run_congr (h : d.AgreeOn (lookedAt d.workingDir args) d')
    (hstdin : readsInput args = true → stdin = stdin') :
    run write d stdin filter args = run write d' stdin' filter args := by
  rw [lookedAt] at h
  rw [readsInput] at hstdin
  rw [run, run]
  cases hi : readInvocation {} args with
  | error stop => cases stop <;> rfl
  | ok i =>
    rw [hi] at h hstdin
    dsimp only
    rw [Action.run_congr h hstdin]

/-- What a run comes to on a disk can be found from a record of the paths that it looks at. -/
theorem run_ofEntries (d : Disk) (stdin : ByteArray) (args : List Text) :
    run write (.ofEntries d.workingDir
        ((lookedAt d.workingDir args).map fun p => (p, d.look p)))
        (if readsInput args then stdin else .empty) filter args =
      run write d stdin filter args := by
  refine run_congr write filter (d.agreeOn_ofEntries _) fun hreads => ?_
  rw [if_pos hreads]

end

end Command

end Accessors

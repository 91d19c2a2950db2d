import Accessors.Command.Run
import Accessors.Proofs.InsertionPoint
import Accessors.Proofs.LookedAt
import Accessors.Proofs.TextLaws
import Accessors.Proofs.WriteFlag

/-!
# The one file that a run may change

A run changes a file only if it was asked to write and everything before the writing succeeded.
Then it changes the file that the command line names and no other. Unless the writing breaks off
midway the run ends well, the new text is the old one with the generated code at the place for new
methods, and the code is what the same command line prints without the write flag.
-/

namespace Accessors

namespace File

/-- A file refuses, or takes the beginning of what is written, or takes all of it. -/
theorem write_cases (f : File) (bytes : ByteArray) :
    (∃ e, f.refusesWriting = some e ∧ f.write bytes = (.error e, f)) ∨
      (∃ n e, f.breaksOff = some (n, e) ∧ n < bytes.size ∧
        f.write bytes = (.error e, { f with bytes := bytes.extract 0 n })) ∨
      f.write bytes = (.ok (), { f with bytes := bytes }) := by
  rw [write]
  cases hrefuses : f.refusesWriting with
  | some e => exact .inl ⟨e, rfl, rfl⟩
  | none =>
    right
    dsimp only
    split
    · next n e hbreaks =>
      obtain ⟨hlimit, hlt⟩ := Option.filter_eq_some_iff.mp hbreaks
      exact .inl ⟨n, e, hlimit, of_decide_eq_true hlt, rfl⟩
    · exact .inr rfl

theorem write_of_whole {f : File} {bytes : ByteArray} (hwhole : f.breaksOff = none)
    (hchanged : (f.write bytes).2 ≠ f) : f.write bytes = (.ok (), { f with bytes := bytes }) := by
  rcases f.write_cases bytes with ⟨e, -, hwrite⟩ | ⟨n, e, hbreaks, -⟩ | hwrite
  · rw [hwrite] at hchanged
    exact absurd rfl hchanged
  · rw [hwhole] at hbreaks
    cases hbreaks
  · exact hwrite

end File

def Node.size : Node → Nat
  | .file f => f.bytes.size
  | .directory _ => 0

namespace FileTree

/-- No writing breaks off midway: each file takes what is written whole, or refuses it and keeps
what it has. -/
def NeverBreaksOff (t : FileTree) : Prop :=
  ∀ names f, (names, .file f) ∈ t.entries → f.breaksOff = none

variable {t : FileTree} {path : Text} {names : List Text} {f : File}

theorem mem_entries_of_node? (h : t.node? names = some (.file f)) :
    (names, .file f) ∈ t.entries := by
  rw [node?] at h
  split at h
  · cases h
  · obtain ⟨l₁, l₂, hentries, -⟩ := List.lookup_eq_some_iff.mp h
    simp [hentries]

theorem lookup_map_file (entries : List (List Text × Node)) (names : List Text) (f : File)
    (names' : List Text) :
    (entries.map fun e => if e.1 = names then (e.1, .file f) else e).lookup names' =
      if names' = names then (entries.lookup names').map fun _ => .file f
      else entries.lookup names' := by
  induction entries with
  | nil => simp
  | cons e entries ih =>
    obtain ⟨k, node⟩ := e
    have hkey : (if k = names then (k, Node.file f) else (k, node)) =
        (k, if k = names then Node.file f else node) := by
      split <;> rfl
    rw [List.map_cons, hkey, List.lookup_cons, List.lookup_cons, ih]
    by_cases hk : names' = k
    · subst hk
      by_cases hn : names' = names <;> simp [hn]
    · rw [beq_eq_false_iff_ne.mpr hk]

theorem node?_put (h : t.node? names = some (.file f)) (new : File) (names' : List Text) :
    (t.put names new).node? names' =
      if names' = names then some (.file new) else t.node? names' := by
  have hne : names.isEmpty = false := by
    cases names with
    | nil => cases h
    | cons name names => rfl
  rw [node?, hne] at h
  simp only [put, node?, lookup_map_file]
  by_cases hn : names' = names
  · subst hn
    simp_all
  · simp [hn]

/-- A text can be read only from a file. -/
theorem exists_file_of_read {old : Text} (h : t.disk.read path = .ok old) :
    ∃ names f, t.place path = .ok names ∧ t.node? names = some (.file f) := by
  change Disk.read ⟨_, t.look⟩ path = _ at h
  rw [Disk.read] at h
  dsimp only at h
  rw [look] at h
  cases hplace : t.place path with
  | error e => simp [hplace, Entry.refused] at h
  | ok names =>
    cases hnode : t.node? names with
    | none => simp [hplace, hnode, Entry.refused] at h
    | some node =>
      cases node with
      | directory refusal => simp [hplace, hnode, Entry.refused] at h
      | file f => exact ⟨names, f, rfl, hnode⟩

theorem write_of_file (hplace : t.place path = .ok names) (hfile : t.node? names = some (.file f))
    (bytes : ByteArray) :
    write path bytes t = ((f.write bytes).1, t.put names (f.write bytes).2) := by
  simp only [write, hplace, hfile]

end FileTree

namespace Command

/-- What an action asks to be written into its file: accessors of a kind, for a selection. The one
who picks a member selects it by name. -/
inductive Action.AsksWrite : Action → SourceArguments → Kind → Selection → Prop
  | generate (kind : Kind) (a : SourceArguments) (name : Option Text) :
    AsksWrite (.generate kind a name true) a kind (name.elim .all .named)
  | pick (a : SourceArguments) (kind : Kind) (name : Text) :
    AsksWrite (.pick a kind true) a kind (.named name)

theorem Action.AsksWrite.withoutWrite_ne {action : Action} {a : SourceArguments} {kind : Kind}
    {selection : Selection} (h : action.AsksWrite a kind selection) :
    action.withoutWrite ≠ action := by
  cases h <;> simp [Action.withoutWrite]

theorem Action.AsksWrite.selection_eq {kind kind' : Kind} {a a' : SourceArguments}
    {name : Option Text} {write : Bool} {selection : Selection}
    (h : (Action.generate kind a name write).AsksWrite a' kind' selection) :
    selection = name.elim .all .named := by
  cases h
  rfl

/-- The code that a command makes, and the file that it goes into. -/
structure Writes (w : Workspace) (g : Generator) (kind : Kind) (selection : Selection)
    (path text : Text) (made : Generated) : Prop where
  generated : g.generate w.input.text kind selection = .ok made
  nonempty : made.code ≠ []
  path : w.input.path = some path
  inserted : Insertion.insert? w.input.text made.code = some text

variable {disk : Disk} {stdin : ByteArray} {a : SourceArguments} {w : Workspace} {g : Generator}
  {kind : Kind} {selection : Selection} {write : Bool} {made : Generated} {path text : Text}
  {names : List Text}

theorem deliver_of_write (h : (deliver w made write).write = some (path, text)) :
    (deliver w made write).failure = none ∧ write = true ∧ made.code ≠ [] ∧
      w.input.path = some path ∧ Insertion.insert? w.input.text made.code = some text := by
  revert h
  rw [deliver]
  split
  · rintro ⟨⟩
  · next hempty =>
    split
    · next hwrite =>
      split
      · rintro ⟨⟩
      · next p hpath =>
        split
        · rintro ⟨⟩
        · next text' hinsert =>
          intro h
          obtain ⟨rfl, rfl⟩ := Prod.mk.inj (Option.some.inj h)
          exact ⟨rfl, hwrite, by simpa [Generated.isEmpty] using hempty, hpath, hinsert⟩
    · rintro ⟨⟩

theorem deliver_print (h : made.code ≠ []) : deliver w made false = { out := made.code } := by
  rw [deliver, if_neg (by simpa [Generated.isEmpty] using h)]
  rfl

theorem generate_of_write
    (h : (generate w g kind selection write).write = some (path, text)) :
    (generate w g kind selection write).failure = none ∧ write = true ∧
      ∃ made, Writes w g kind selection path text made := by
  revert h
  rw [generate]
  cases hmade : g.generate w.input.text kind selection with
  | error e => rintro ⟨⟩
  | ok made =>
    intro h
    have hdeliver : (deliver w made write).write = some (path, text) := h
    obtain ⟨hfailure, hwrite, hcode, hpath, hinsert⟩ := deliver_of_write hdeliver
    exact ⟨hfailure, hwrite, made, hmade, hcode, hpath, hinsert⟩

theorem generate_print (hmade : g.generate w.input.text kind selection = .ok made)
    (hcode : made.code ≠ []) :
    generate w g kind selection false =
      Report.after (g.notices w.input.text kind selection)
        { out := made.code, messages := skippedLines made } := by
  rw [generate, hmade]
  dsimp only
  rw [deliver_print hcode, List.append_nil]

theorem answer_of_write {line : Text}
    (h : (answer w g kind write names line).write = some (path, text)) :
    (answer w g kind write names line).failure = none ∧ write = true ∧
      ∃ name made, Writes w g kind (.named name) path text made := by
  revert h
  rw [answer]
  split
  · rintro ⟨⟩
  · rintro ⟨⟩
  · split
    · rintro ⟨⟩
    · next name _ =>
      intro h
      obtain ⟨hfailure, hwrite, hmade⟩ := generate_of_write h
      exact ⟨hfailure, hwrite, name, hmade⟩

theorem respond_of_write {answers : List UInt8}
    (h : (respond w g kind write names answers).write = some (path, text)) :
    (respond w g kind write names answers).failure = none ∧ write = true ∧
      ∃ name made, Writes w g kind (.named name) path text made := by
  revert h
  rw [respond]
  split
  · rintro ⟨⟩
  · split
    · rintro ⟨⟩
    · exact answer_of_write

theorem pick_of_write (h : (pick w g kind write stdin).write = some (path, text)) :
    (pick w g kind write stdin).failure = none ∧ write = true ∧
      ∃ name made, Writes w g kind (.named name) path text made := by
  revert h
  rw [pick]
  change Report.write (ite _ _ _) = _ → Report.failure (ite _ _ _) = _ ∧ _
  split
  · rintro ⟨⟩
  · exact respond_of_write

theorem Input.read_of_path {file : Option Text} {input : Input}
    (h : Input.read disk stdin file = .ok input) (hpath : input.path = some path) :
    file = some path ∧ Path.isName ['-'] path = false ∧ disk.read path = .ok input.text := by
  have hp : Input.path? file = some path := (Input.path_of_read h).symm.trans hpath
  obtain ⟨hfile, hname⟩ := Option.filter_eq_some_iff.mp hp
  refine ⟨hfile, by simpa using hname, ?_⟩
  rw [Input.read, hp] at h
  dsimp only at h
  split at h
  · next hread =>
    obtain rfl := Except.ok.inj h
    exact hread
  · cases h

/-- The generator that the settings for a file and the arguments give. -/
def GeneratorFor (disk : Disk) (a : SourceArguments) (path : Text) (g : Generator) : Prop :=
  ∃ s c, loadSettings disk a.config (Input.settingsRoot disk.workingDir (some path)) = .ok s ∧
    s.catalogue = .ok c ∧ Generator.resolve c (runOptions s a.template) = .ok g

theorem prepare_of_ok (h : (prepare disk stdin a).2 = .ok w) :
    Input.read disk stdin a.file = .ok w.input ∧
      ∃ s, loadSettings disk a.config (Input.settingsRoot disk.workingDir w.input.path) = .ok s ∧
        s.catalogue = .ok w.catalogue ∧ w.options = runOptions s a.template := by
  rw [prepare] at h
  split at h
  · cases h
  · next input hinput =>
    split at h
    · cases h
    · dsimp only at h
      split at h
      · cases h
      · next s hs =>
        obtain ⟨c, hc, rfl⟩ := map_eq_ok_iff.mp h
        refine ⟨hinput, s, hs, ?_, rfl⟩
        cases hcatalogue : s.catalogue with
        | error e =>
          rw [loadCatalogue, hcatalogue] at hc
          cases hc
        | ok c' =>
          rw [loadCatalogue, hcatalogue] at hc
          obtain rfl := Except.ok.inj hc
          rfl

theorem generatorFor_of_prepare (hw : (prepare disk stdin a).2 = .ok w)
    (hg : Generator.resolve w.catalogue w.options = .ok g) (hpath : w.input.path = some path) :
    GeneratorFor disk a path g := by
  obtain ⟨-, s, hs, hc, hoptions⟩ := prepare_of_ok hw
  rw [hpath] at hs
  exact ⟨s, w.catalogue, hs, hc, hoptions ▸ hg⟩

theorem withWorkspace_of_ok {next : Workspace → Generator → Report}
    (hw : (prepare disk stdin a).2 = .ok w)
    (hg : Generator.resolve w.catalogue w.options = .ok g) :
    withWorkspace disk stdin a next = (next w g).after (prepare disk stdin a).1 := by
  simp only [withWorkspace, hw, hg]

theorem withWorkspace_of_write {next : Workspace → Generator → Report}
    (h : (withWorkspace disk stdin a next).write = some (path, text)) :
    ∃ w g, (prepare disk stdin a).2 = .ok w ∧ Generator.resolve w.catalogue w.options = .ok g ∧
      (next w g).write = some (path, text) ∧
      (withWorkspace disk stdin a next).failure = (next w g).failure := by
  cases hw : (prepare disk stdin a).2 with
  | error f =>
    simp only [withWorkspace, hw] at h
    cases h
  | ok w =>
    cases hg : Generator.resolve w.catalogue w.options with
    | error e =>
      simp only [withWorkspace, hw, hg] at h
      cases h
    | ok g =>
      rw [withWorkspace_of_ok hw hg] at h ⊢
      exact ⟨w, g, rfl, hg, h, rfl⟩

theorem write_templates {config : Option Text} : (templates disk config).write = none := by
  rw [templates]
  cases loadSettings disk config disk.workingDir with
  | error f => rfl
  | ok s =>
    dsimp only
    cases loadCatalogue s <;> rfl

theorem Action.run_of_write {action : Action}
    (h : (action.run disk stdin).write = some (path, text)) :
    (action.run disk stdin).failure = none ∧
      ∃ a kind selection w g made, action.AsksWrite a kind selection ∧
        (prepare disk stdin a).2 = .ok w ∧ Generator.resolve w.catalogue w.options = .ok g ∧
        Writes w g kind selection path text made := by
  cases action with
  | generate kind a name write =>
    obtain ⟨w, g, hw, hg, hwrites, hsame⟩ := withWorkspace_of_write h
    obtain ⟨hfailure, rfl, made, hmade⟩ := generate_of_write hwrites
    exact ⟨hsame.trans hfailure, a, kind, _, w, g, made, .generate kind a name, hw, hg, hmade⟩
  | list a json =>
    obtain ⟨w, g, -, -, hwrites, -⟩ := withWorkspace_of_write h
    cases hwrites
  | pick a kind write =>
    obtain ⟨w, g, hw, hg, hwrites, hsame⟩ := withWorkspace_of_write h
    obtain ⟨hfailure, rfl, name, made, hmade⟩ := pick_of_write hwrites
    exact ⟨hsame.trans hfailure, a, kind, _, w, g, made, .pick a kind name, hw, hg, hmade⟩
  | templates config => exact nomatch write_templates.symm.trans h

variable {t : FileTree} {filter : Option Text} {args : List Text} {i : Invocation}

theorem runIn_of_print (hi : readInvocation {} args = .ok i)
    (hwrite : (i.action.run t.disk stdin).write = none) :
    runIn t stdin filter args =
      ((i.action.run t.disk stdin).outcome (.choose filter i.verbose), t) := by
  simp only [runIn, run, hi, Report.settle, hwrite]
  rfl

theorem runIn_of_write (hi : readInvocation {} args = .ok i)
    (hwrite : (i.action.run t.disk stdin).write = some (path, text)) :
    runIn t stdin filter args =
      (((i.action.run t.disk stdin).written path
          (FileTree.write path (Text.toBytes text) t).1).outcome (.choose filter i.verbose),
        (FileTree.write path (Text.toBytes text) t).2) := by
  simp only [runIn, run, hi, Report.settle, hwrite]
  rfl

/-- A run that leaves another tree has asked for a file to be written. -/
theorem exists_write_of_change (h : (runIn t stdin filter args).2 ≠ t) :
    ∃ i path text, readInvocation {} args = .ok i ∧
      (i.action.run t.disk stdin).write = some (path, text) := by
  cases hi : readInvocation {} args with
  | error stop =>
    rw [runIn, run, hi] at h
    cases stop <;> exact absurd rfl h
  | ok i =>
    cases hwrite : (i.action.run t.disk stdin).write with
    | none =>
      rw [runIn_of_print hi hwrite] at h
      exact absurd rfl h
    | some asked => exact ⟨i, asked.1, asked.2, rfl, hwrite⟩

theorem status_written {r : Report} (h : r.failure = none) (result : Except OsError Unit)
    (threshold : Threshold) :
    ((r.written path result).outcome threshold).status = if result.isOk then 0 else 1 := by
  cases result with
  | error e => rfl
  | ok u => simp [Report.written, Report.outcome, h, Except.isOk, Except.toBool]

/-- A run whose file refuses to be written says so, and leaves everything as it was. -/
theorem refused_write_is_reported {f : File} {e : OsError} (hi : readInvocation {} args = .ok i)
    (hwrite : (i.action.run t.disk stdin).write = some (path, text))
    (hplace : t.place path = .ok names) (hfile : t.node? names = some (.file f))
    (hrefuses : f.refusesWriting = some e) :
    (∃ told, (runIn t stdin filter args).1 =
      ⟨1, (i.action.run t.disk stdin).out,
        told ++ Failure.render ⟨"Failed to write '" ++ path ++ "'", [e.message]⟩⟩) ∧
      ∀ names', (runIn t stdin filter args).2.node? names' = t.node? names' := by
  have hkept : f.write (Text.toBytes text) = (.error e, f) := by
    rw [File.write, hrefuses]
  rw [runIn_of_write hi hwrite, FileTree.write_of_file hplace hfile, hkept]
  refine ⟨⟨_, rfl⟩, fun names' => ?_⟩
  rw [FileTree.node?_put hfile]
  split
  · next h => rw [h, hfile]
  · rfl

/-- Where a run leaves something else than it found, it has tried to write the text with the new
code into the file there, which the command line names. -/
theorem exists_writes_of_change
    (h : (runIn t stdin filter args).2.node? names ≠ t.node? names) :
    ∃ i a kind selection w g path text made f, readInvocation {} args = .ok i ∧
      i.action.AsksWrite a kind selection ∧ (prepare t.disk stdin a).2 = .ok w ∧
      Generator.resolve w.catalogue w.options = .ok g ∧ Writes w g kind selection path text made ∧
      a.file = some path ∧ Path.isName ['-'] path = false ∧
      t.disk.read path = .ok w.input.text ∧ t.place path = .ok names ∧
      t.node? names = some (.file f) ∧ (f.write (Text.toBytes text)).2 ≠ f ∧
      (runIn t stdin filter args).1.status =
        (if (f.write (Text.toBytes text)).1.isOk then 0 else 1) ∧
      (runIn t stdin filter args).2 = t.put names (f.write (Text.toBytes text)).2 := by
  have htree : (runIn t stdin filter args).2 ≠ t := by
    intro heq
    rw [heq] at h
    exact h rfl
  obtain ⟨i, path, text, hi, hasked⟩ := exists_write_of_change htree
  obtain ⟨hfailure, a, kind, selection, w, g, made, hasks, hw, hg, hwrites⟩ :=
    Action.run_of_write hasked
  obtain ⟨hread, -⟩ := prepare_of_ok hw
  obtain ⟨hfile, hname, hold⟩ := Input.read_of_path hread hwrites.path
  obtain ⟨place, f, hplace, hnode⟩ := FileTree.exists_file_of_read hold
  have hrun := @runIn_of_write stdin path text t filter args i hi hasked
  rw [FileTree.write_of_file hplace hnode] at hrun
  rw [hrun, FileTree.node?_put hnode] at h
  have hnames : names = place := by
    by_contra hne
    exact h (if_neg hne)
  subst hnames
  rw [if_pos rfl, hnode] at h
  refine ⟨i, a, kind, selection, w, g, path, text, made, f, hi, hasks, hw, hg, hwrites, hfile,
    hname, hold, hplace, hnode, fun heq => h (by rw [heq]), ?_, by rw [hrun]⟩
  rw [hrun]
  exact status_written hfailure _ _

/-- Also where writing breaks off, a run changes nothing but the file that its command line names.
A beginning of the new text is left there, and the run ends well just if that is all of it. -/
theorem changed_file_holds_beginning
    (h : (runIn t stdin filter args).2.node? names ≠ t.node? names) :
    ∃ i a kind selection path f old text g made n, readInvocation {} args = .ok i ∧
      i.action.AsksWrite a kind selection ∧ a.file = some path ∧ t.place path = .ok names ∧
      t.node? names = some (.file f) ∧ t.disk.read path = .ok old ∧
      GeneratorFor t.disk a path g ∧ g.generate old kind selection = .ok made ∧
      Insertion.insert? old made.code = some text ∧ n ≤ (Text.toBytes text).size ∧
      (runIn t stdin filter args).2 =
        t.put names { f with bytes := (Text.toBytes text).extract 0 n } ∧
      ((runIn t stdin filter args).1.status = 0 ↔ n = (Text.toBytes text).size) := by
  obtain ⟨i, a, kind, selection, w, g, path, text, made, f, hi, hasks, hw, hg, hwrites, hfile, -,
    hold, hplace, hnode, hchanged, hstatus, htree⟩ := exists_writes_of_change h
  have hgenerator := generatorFor_of_prepare hw hg hwrites.path
  rw [hstatus, htree]
  rcases f.write_cases (Text.toBytes text) with ⟨e, -, hwrite⟩ | ⟨n, e, -, hlt, hwrite⟩ | hwrite
  · rw [hwrite] at hchanged
    exact absurd rfl hchanged
  · rw [hwrite]
    refine ⟨i, a, kind, selection, path, f, w.input.text, text, g, made, n, hi, hasks, hfile,
      hplace, hnode, hold, hgenerator, hwrites.generated, hwrites.inserted, hlt.le, rfl, ?_⟩
    exact iff_of_false Nat.one_ne_zero hlt.ne
  · rw [hwrite]
    refine ⟨i, a, kind, selection, path, f, w.input.text, text, g, made, _, hi, hasks, hfile,
      hplace, hnode, hold, hgenerator, hwrites.generated, hwrites.inserted, le_refl _, ?_,
      iff_of_true rfl rfl⟩
    rw [ByteArray.extract_zero_size]

/-- The same command line without the write flag prints the code and writes nothing. -/
theorem runIn_withoutWrite {name : Option Text} (hi : readInvocation {} args = .ok i)
    (haction : i.action = .generate kind a name write) (hw : (prepare t.disk stdin a).2 = .ok w)
    (hg : Generator.resolve w.catalogue w.options = .ok g)
    (hmade : g.generate w.input.text kind (name.elim .all .named) = .ok made)
    (hcode : made.code ≠ []) :
    ∃ err, runIn t stdin filter (withoutWrite args) = (⟨0, made.code, err⟩, t) := by
  have hi' : readInvocation {} (withoutWrite args) =
      .ok ⟨i.verbose, .generate kind a name false⟩ := by
    have hread := readInvocation_withoutWrite hi
    rw [haction] at hread
    exact hread
  have hrun : (Action.generate kind a name false).run t.disk stdin =
      (generate w g kind (name.elim .all .named) false).after (prepare t.disk stdin a).1 :=
    withWorkspace_of_ok hw hg
  rw [generate_print hmade hcode] at hrun
  refine ⟨_, (runIn_of_print hi' ?_).trans (by rw [hrun]; rfl)⟩
  rw [hrun]
  rfl

/-- If a run changes anything, it ended well, the write flag was given, and the change is one
insertion into the file that the command line names. -/
theorem only_change_is_insertion (hwhole : t.NeverBreaksOff)
    (h : (runIn t stdin filter args).2.node? names ≠ t.node? names) :
    ∃ i a kind selection path f old before after offset g made,
      (runIn t stdin filter args).1.status = 0 ∧
      withoutWrite args ≠ args ∧ readInvocation {} args = .ok i ∧
      i.action.AsksWrite a kind selection ∧
      a.file = some path ∧ Path.isName ['-'] path = false ∧
      t.place path = .ok names ∧ t.node? names = some (.file f) ∧ t.disk.read path = .ok old ∧
      GeneratorFor t.disk a path g ∧
      g.generate old kind selection = .ok made ∧ made.code ≠ [] ∧
      Insertion.offset? old = some offset ∧ Text.cutAtByte? offset old = some (before, after) ∧
      (∀ names', (runIn t stdin filter args).2.node? names' =
        if names' = names then
          some (.file { f with bytes := Text.toBytes (before ++ made.code ++ after) })
        else t.node? names') ∧
      (∀ name, i.action = .generate kind a name true →
        ∃ err, runIn t stdin filter (withoutWrite args) = (⟨0, made.code, err⟩, t)) := by
  obtain ⟨i, a, kind, selection, w, g, path, text, made, f, hi, hasks, hw, hg, hwrites, hfile,
    hname, hold, hplace, hnode, hchanged, hstatus, htree⟩ := exists_writes_of_change h
  obtain ⟨⟨before, after⟩, hcut, rfl⟩ := Option.map_eq_some_iff.mp hwrites.inserted
  have hwritten := File.write_of_whole
    (hwhole names f (FileTree.mem_entries_of_node? hnode)) hchanged
  rw [hwritten] at hstatus htree
  refine ⟨i, a, kind, selection, path, f, w.input.text, before, after, Text.byteLength before, g,
    made, hstatus, ?_, hi, hasks, hfile, hname, hplace, hnode, hold,
    generatorFor_of_prepare hw hg hwrites.path, hwrites.generated, hwrites.nonempty, ?_, ?_, ?_, ?_⟩
  · intro heq
    have hread' := readInvocation_withoutWrite hi
    rw [heq] at hread'
    have hsame := Except.ok.inj (hread'.symm.trans hi)
    exact hasks.withoutWrite_ne (congrArg Invocation.action hsame)
  · rw [Insertion.offset?, hcut]
    rfl
  · obtain ⟨rest, rfl, hsource, -, -⟩ := Insertion.cut?_eq_some_iff.mp hcut
    rw [hsource]
    exact Text.cutAtByte?_append before _
  · rw [htree]
    exact FileTree.node?_put hnode _
  · intro name haction
    obtain rfl := (haction ▸ hasks).selection_eq
    exact runIn_withoutWrite hi haction hw hg hwrites.generated hwrites.nonempty

/-- A class beside the working directory, with settings above both. -/
def plainTree : FileTree where
  entries :=
    [(["work".toList], .directory none),
      (["work".toList, "src".toList], .directory none),
      (["work".toList, "getset.toml".toList], .file { bytes := Text.toBytes "use_tabs = false\n" }),
      (["work".toList, "A.php".toList],
        .file { bytes := Text.toBytes "<?php class A \x7b\nprivate $x;\n\x7d" })]
  workingDir := ["work", "src"]

def writingLine : List Text :=
  ["getters", "-vw", "../A.php"]

def printingLine : List Text :=
  ["getters", "-v", "../A.php"]

def writtenTree : FileTree :=
  (runIn plainTree .empty none writingLine).2

/-- The class gains what the line without the flag prints. -/
theorem writtenTree_gains_printed_code :
    plainTree.NeverBreaksOff ∧
      writtenTree.node? ["work", "A.php"] ≠ plainTree.node? ["work", "A.php"] ∧
      (runIn plainTree .empty none writingLine).1.status = 0 ∧
      ∃ f old before after offset, plainTree.node? ["work", "A.php"] = some (.file f) ∧
        plainTree.disk.read "../A.php" = .ok old ∧
        Text.cutAtByte? offset old = some (before, after) ∧
        writtenTree.node? ["work", "A.php"] =
          some (.file { f with bytes := Text.toBytes (before ++
            (runIn plainTree .empty none printingLine).1.out ++ after) }) := by
  have hwhole : plainTree.NeverBreaksOff := by
    intro names f hmem
    simp only [plainTree, List.mem_cons, Prod.mk.injEq, reduceCtorEq, and_false, Node.file.injEq,
      List.not_mem_nil, or_false, false_or] at hmem
    rcases hmem with ⟨-, rfl⟩ | ⟨-, rfl⟩ <;> rfl
  have hchanged : writtenTree.node? ["work", "A.php"] ≠ plainTree.node? ["work", "A.php"] := by
    intro h
    exact absurd (congrArg (Option.map Node.size) h) (by decide +kernel)
  have hi : readInvocation {} writingLine =
      .ok ⟨true, .generate .getters ⟨some "../A.php", none, none, false⟩ none true⟩ := by
    decide
  have hline : withoutWrite writingLine = printingLine := by decide
  obtain ⟨i, a, kind, selection, path, f, old, before, after, offset, g, made, hstatus, -, hi',
    hasks, hfile, -, -, hnode, hold, -, -, -, -, hcut, hnodes, hprint⟩ :=
    only_change_is_insertion hwhole hchanged
  obtain rfl := Except.ok.inj (hi.symm.trans hi')
  cases hasks
  obtain rfl := Option.some.inj hfile
  obtain ⟨err, hout⟩ := hprint none rfl
  rw [hline] at hout
  refine ⟨hwhole, hchanged, hstatus, f, old, before, after, offset, hnode, hold, hcut, ?_⟩
  rw [hout]
  exact (hnodes _).trans (if_pos rfl)

end Command

end Accessors

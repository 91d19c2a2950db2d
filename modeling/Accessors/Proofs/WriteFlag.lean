import Accessors.Command.Invocation
import Accessors.Proofs.ExceptLaws
import Mathlib.Data.List.Basic

/-!
# Command lines without the write flag

The write flag is given by its long name, or by its letter in a bundle of short flags. Taking it
out of a command line leaves all else that the line gives as it was.
-/

namespace Accessors

namespace Command

def Given.withoutWrite (g : Given) : Given :=
  { g with flags := g.flags.filter (· != .write) }

/-- A bundle without the letter of the write flag. The first letter that is no flag is that of a
parameter, and its value follows. -/
def bundleWithoutWrite : Text → Text
  | [] => []
  | c :: rest =>
    if c = 'w' then bundleWithoutWrite rest
    else if c = 'v' then c :: bundleWithoutWrite rest
    else c :: rest

def argumentWithoutWrite : Text → Option Text
  | '-' :: '-' :: t => if t = Flag.write.long then none else some ('-' :: '-' :: t)
  | '-' :: c :: t =>
    match bundleWithoutWrite (c :: t) with
    | [] => none
    | bundle => some ('-' :: bundle)
  | a => some a

/-- The command line without the write flag. After two dashes there are no flags. -/
def withoutWrite : List Text → List Text
  | [] => []
  | a :: rest =>
    if a = ['-', '-'] then a :: rest
    else (argumentWithoutWrite a).toList ++ withoutWrite rest

theorem ite_error_eq_ok_iff {ε α : Type} {c : Prop} [Decidable c] {e : ε} {a b : α} :
    (if c then .error e else .ok a : Except ε α) = .ok b ↔ ¬c ∧ a = b := by
  split <;> simp [*]

namespace Given

variable {g g' : Given}

theorem has_withoutWrite {f : Flag} (hf : f ≠ .write) : g.withoutWrite.has f = g.has f := by
  rw [Bool.eq_iff_iff, has, has, List.contains_iff_mem, List.contains_iff_mem, withoutWrite,
    List.mem_filter]
  simp [hf]

theorem not_has_write (g : Given) : g.withoutWrite.has .write = false := by
  rw [Bool.eq_false_iff, ne_eq, has, List.contains_iff_mem, withoutWrite, List.mem_filter]
  simp

theorem addFlag_eq_ok_iff {f : Flag} :
    g.addFlag f = .ok g' ↔ f ≠ .help ∧ f ≠ .version ∧ g.has f = false ∧
      { g with flags := f :: g.flags } = g' := by
  cases f <;> simp [addFlag, ite_error_eq_ok_iff]

theorem addParameter_eq_ok_iff {s : Parameter} {value : Text} :
    g.addParameter s value = .ok g' ↔ g.value? s = none ∧ s.takes value = true ∧
      { g with parameters := (s, value) :: g.parameters } = g' := by
  simp [addParameter, ite_error_eq_ok_iff, and_assoc]

theorem addFile_eq_ok_iff {grammar : Grammar} {path : Text} :
    g.addFile grammar path = .ok g' ↔ grammar.takesFile = true ∧ g.file = none ∧ path ≠ [] ∧
      { g with file := some path } = g' := by
  rw [addFile]
  split <;> simp_all

theorem withoutWrite_of_addFlag_write (h : g.addFlag .write = .ok g') :
    g'.withoutWrite = g.withoutWrite := by
  obtain ⟨-, -, -, rfl⟩ := addFlag_eq_ok_iff.mp h
  rfl

theorem addFlag_withoutWrite {f : Flag} (hf : f ≠ .write) (h : g.addFlag f = .ok g') :
    g.withoutWrite.addFlag f = .ok g'.withoutWrite := by
  obtain ⟨hhelp, hversion, hnew, rfl⟩ := addFlag_eq_ok_iff.mp h
  refine addFlag_eq_ok_iff.mpr ⟨hhelp, hversion, (has_withoutWrite hf).trans hnew, ?_⟩
  rw [withoutWrite, withoutWrite, List.filter_cons_of_pos (by simpa using hf)]

theorem addParameter_withoutWrite {s : Parameter} {value : Text}
    (h : g.addParameter s value = .ok g') :
    g.withoutWrite.addParameter s value = .ok g'.withoutWrite := by
  obtain ⟨hnew, htakes, rfl⟩ := addParameter_eq_ok_iff.mp h
  exact addParameter_eq_ok_iff.mpr ⟨hnew, htakes, rfl⟩

theorem addFile_withoutWrite {grammar : Grammar} {path : Text}
    (h : g.addFile grammar path = .ok g') :
    g.withoutWrite.addFile grammar path = .ok g'.withoutWrite := by
  obtain ⟨htakes, hnone, hpath, rfl⟩ := addFile_eq_ok_iff.mp h
  exact addFile_eq_ok_iff.mpr ⟨htakes, hnone, hpath, rfl⟩

end Given

variable {grammar : Grammar} {g g' : Given} {parameter? : Option Parameter}

theorem Parameter.short_ne (s : Parameter) : s.short ≠ 'w' ∧ s.short ≠ 'v' := by
  cases s <;> decide

theorem addParameter_map_withoutWrite {s : Parameter} {value : Text}
    (h : (g.addParameter s value).map (fun g => (g, none)) = .ok (g', parameter?)) :
    (g.withoutWrite.addParameter s value).map (fun g => (g, none)) =
      .ok (g'.withoutWrite, parameter?) := by
  obtain ⟨g₁, hadd, heq⟩ := map_eq_ok_iff.mp h
  obtain ⟨rfl, rfl⟩ := Prod.mk.inj heq
  exact map_eq_ok_iff.mpr ⟨_, Given.addParameter_withoutWrite hadd, rfl⟩

theorem readBundle_withoutWrite {t : Text} (h : readBundle grammar g t = .ok (g', parameter?)) :
    readBundle grammar g.withoutWrite (bundleWithoutWrite t) =
      .ok (g'.withoutWrite, parameter?) := by
  induction t generalizing g with
  | nil =>
    obtain ⟨rfl, rfl⟩ := Prod.mk.inj (Except.ok.inj h)
    rfl
  | cons c rest ih =>
    rw [readBundle] at h
    split at h
    · next f hf =>
      have hfound := List.find?_some hf
      have hshort : f.short? = some c := beq_iff_eq.mp hfound
      obtain ⟨g₁, hadd, hrest⟩ := bind_eq_ok_iff.mp h
      cases f with
      | write =>
        obtain rfl := Option.some.inj hshort
        rw [bundleWithoutWrite, if_pos rfl, ← Given.withoutWrite_of_addFlag_write hadd, ih hrest]
      | verbose =>
        obtain rfl := Option.some.inj hshort
        rw [bundleWithoutWrite, if_neg (by decide), if_pos rfl, readBundle, hf]
        exact bind_eq_ok_iff.mpr ⟨_, Given.addFlag_withoutWrite (by decide) hadd, ih hrest⟩
      | help => cases hadd
      | version => cases hadd
      | force => cases hshort
      | json => cases hshort
    · next hf =>
      split at h
      · cases h
      · next s hs =>
        have hfound := List.find?_some hs
        obtain rfl : s.short = c := beq_iff_eq.mp hfound
        rw [bundleWithoutWrite, if_neg s.short_ne.1, if_neg s.short_ne.2, readBundle, hf, hs]
        split at h
        · obtain ⟨rfl, rfl⟩ := Prod.mk.inj (Except.ok.inj h)
          rfl
        · exact addParameter_map_withoutWrite h
        · exact addParameter_map_withoutWrite h

theorem readLong_write (h : readLong grammar g Flag.write.long = .ok (g', parameter?)) :
    parameter? = none ∧ g'.withoutWrite = g.withoutWrite := by
  have hname : Flag.write.long.takeWhile (· != '=') = Flag.write.long := by decide
  rw [readLong, hname] at h
  split at h
  · next f hf =>
    have hfound := List.find?_some hf
    have hlong : f.long = Flag.write.long := beq_iff_eq.mp hfound
    obtain rfl : f = .write := by
      cases f with
      | write => rfl
      | verbose | force | json | help | version => exact absurd hlong (by decide)
    split at h
    · cases h
    · obtain ⟨g₁, hadd, heq⟩ := map_eq_ok_iff.mp h
      obtain ⟨rfl, rfl⟩ := Prod.mk.inj heq
      exact ⟨rfl, Given.withoutWrite_of_addFlag_write hadd⟩
  · have hnone : grammar.parameters.find? (fun s => s.long == Flag.write.long) = none := by
      rw [List.find?_eq_none]
      intro s _
      cases s <;> decide
    rw [hnone] at h
    cases h

theorem readLong_withoutWrite {t : Text} (ht : t ≠ Flag.write.long)
    (h : readLong grammar g t = .ok (g', parameter?)) :
    readLong grammar g.withoutWrite t = .ok (g'.withoutWrite, parameter?) := by
  rw [readLong] at h ⊢
  split at h
  · next f hf =>
    split at h
    · cases h
    · next hvalue =>
      obtain ⟨g₁, hadd, heq⟩ := map_eq_ok_iff.mp h
      obtain ⟨rfl, rfl⟩ := Prod.mk.inj heq
      have hne : f ≠ .write := by
        rintro rfl
        have hfound := List.find?_some hf
        have hlong : Flag.write.long = t.takeWhile (· != '=') := beq_iff_eq.mp hfound
        -- A flag takes no value, so the name is the whole argument.
        cases hd : t.dropWhile (· != '=') with
        | nil =>
          have happend := List.takeWhile_append_dropWhile (p := (· != '=')) (l := t)
          rw [hd, List.append_nil] at happend
          exact ht (happend.symm.trans hlong.symm)
        | cons c rest => simp [hd] at hvalue
      simp only [if_neg hvalue]
      exact map_eq_ok_iff.mpr ⟨_, Given.addFlag_withoutWrite hne hadd, rfl⟩
  · next hf =>
    split at h
    · cases h
    · obtain ⟨rfl, rfl⟩ := Prod.mk.inj (Except.ok.inj h)
      rfl
    · exact addParameter_map_withoutWrite h

theorem readBundle_dash (t : Text) : readBundle grammar g ('-' :: t) = .error .refused := by
  have hflags : grammar.flags.find? (fun f => f.short? == some '-') = none := by
    rw [List.find?_eq_none]
    intro f _
    cases f <;> decide
  have hparameters : grammar.parameters.find? (fun s => s.short == '-') = none := by
    rw [List.find?_eq_none]
    intro s _
    cases s <;> decide
  rw [readBundle, hflags, hparameters]

theorem readDashed_eq_readBundle {c : Char} (hc : c ≠ '-') (t : Text) :
    readDashed grammar g ('-' :: c :: t) = readBundle grammar g (c :: t) := by
  rw [readDashed]
  rintro t' ⟨⟩
  exact hc rfl

/-- An argument that gives only the write flag goes away; any other stays a dashed argument, and
what it gives apart from the write flag does not change. -/
theorem readDashed_withoutWrite {a : Text} (hdashed : isDashed a = true) (ha : a ≠ ['-', '-'])
    (h : readDashed grammar g a = .ok (g', parameter?)) :
    (argumentWithoutWrite a = none ∧ parameter? = none ∧ g'.withoutWrite = g.withoutWrite) ∨
      ∃ a', argumentWithoutWrite a = some a' ∧ isDashed a' = true ∧ a' ≠ ['-', '-'] ∧
        readDashed grammar g.withoutWrite a' = .ok (g'.withoutWrite, parameter?) := by
  rw [argumentWithoutWrite.eq_def]
  split
  · next t =>
    rw [readDashed] at h
    split
    · next ht => exact .inl ⟨rfl, readLong_write (ht ▸ h)⟩
    · next ht => exact .inr ⟨_, rfl, rfl, ha, readLong_withoutWrite ht h⟩
  · next c t hc =>
    rw [readDashed_eq_readBundle hc] at h
    have hbundle := readBundle_withoutWrite h
    cases hleft : bundleWithoutWrite (c :: t) with
    | nil =>
      rw [hleft] at hbundle
      obtain ⟨hg, rfl⟩ := Prod.mk.inj (Except.ok.inj hbundle)
      exact .inl ⟨rfl, rfl, hg.symm⟩
    | cons d r =>
      rw [hleft] at hbundle
      have hd : d ≠ '-' := by
        rintro rfl
        rw [readBundle_dash] at hbundle
        cases hbundle
      refine .inr ⟨_, rfl, rfl, ?_, (readDashed_eq_readBundle hd r).trans hbundle⟩
      rintro ⟨⟩
      exact hd rfl
  · next hshort =>
    rw [isDashed.eq_def] at hdashed
    split at hdashed
    · exact absurd rfl (hshort _ _)
    · cases hdashed

theorem argumentWithoutWrite_of_not_isDashed {a : Text} (h : isDashed a = false) :
    argumentWithoutWrite a = some a := by
  rw [argumentWithoutWrite.eq_def]
  split
  · cases h
  · cases h
  · rfl

theorem readArguments_file {onlyFiles : Bool} {a : Text} {rest : List Text}
    (h : (onlyFiles || !isDashed a) = true) :
    readArguments grammar onlyFiles g (a :: rest) =
      (g.addFile grammar a).bind fun g => readArguments grammar onlyFiles g rest := by
  rw [readArguments.eq_def]
  simp only [h, if_true]

theorem readArguments_dashed_eq_ok_iff {a : Text} {rest : List Text} (hdashed : isDashed a = true)
    (ha : a ≠ ['-', '-']) :
    readArguments grammar false g (a :: rest) = .ok g' ↔
      (∃ g₁, readDashed grammar g a = .ok (g₁, none) ∧
        readArguments grammar false g₁ rest = .ok g') ∨
      ∃ g₁ s value rest' g₂, rest = value :: rest' ∧ readDashed grammar g a = .ok (g₁, some s) ∧
        isDashed value = false ∧ g₁.addParameter s value = .ok g₂ ∧
        readArguments grammar false g₂ rest' = .ok g' := by
  rw [readArguments.eq_def]
  simp only [hdashed, Bool.not_true, Bool.or_self, Bool.false_eq_true, if_false, beq_iff_eq, ha]
  split
  · next hread => simp [hread]
  · next hread => simp [hread]
  · next hread => simp [hread]
  · next g₁ s value rest' hread =>
    cases hvalue : isDashed value <;> simp [hread, hvalue, bind_eq_ok_iff]

theorem readArguments_onlyFiles {args : List Text}
    (h : readArguments grammar true g args = .ok g') :
    readArguments grammar true g.withoutWrite args = .ok g'.withoutWrite := by
  induction args generalizing g with
  | nil =>
    obtain rfl := Except.ok.inj h
    rfl
  | cons a rest ih =>
    rw [readArguments_file rfl] at h ⊢
    obtain ⟨g₁, hadd, hrest⟩ := bind_eq_ok_iff.mp h
    exact bind_eq_ok_iff.mpr ⟨_, Given.addFile_withoutWrite hadd, ih hrest⟩

theorem withoutWrite_cons_of_not_isDashed {a : Text} (h : isDashed a = false) (rest : List Text) :
    withoutWrite (a :: rest) = a :: withoutWrite rest := by
  have ha : a ≠ ['-', '-'] := by
    rintro rfl
    cases h
  rw [withoutWrite, if_neg ha, argumentWithoutWrite_of_not_isDashed h]
  rfl

theorem readArguments_withoutWrite {g : Given} {args : List Text}
    (h : readArguments grammar false g args = .ok g') :
    readArguments grammar false g.withoutWrite (withoutWrite args) = .ok g'.withoutWrite := by
  match args with
  | [] =>
    obtain rfl := Except.ok.inj h
    rfl
  | a :: rest =>
    cases hdashed : isDashed a with
    | false =>
      have hfile : (false || !isDashed a) = true := by rw [hdashed]; rfl
      rw [readArguments_file hfile] at h
      rw [withoutWrite_cons_of_not_isDashed hdashed, readArguments_file hfile]
      obtain ⟨g₁, hadd, hrest⟩ := bind_eq_ok_iff.mp h
      exact bind_eq_ok_iff.mpr
        ⟨_, Given.addFile_withoutWrite hadd, readArguments_withoutWrite hrest⟩
    | true =>
      by_cases ha : a = ['-', '-']
      · subst ha
        rw [readArguments.eq_def] at h
        rw [withoutWrite, if_pos rfl, readArguments.eq_def]
        exact readArguments_onlyFiles h
      · rw [withoutWrite, if_neg ha]
        obtain ⟨g₁, hread, hrest⟩ | ⟨g₁, s, value, rest', g₂, rfl, hread, hvalue, hadd, hrest⟩ :=
          (readArguments_dashed_eq_ok_iff hdashed ha).mp h
        · obtain ⟨hnone, -, hg⟩ | ⟨a', hsome, hdashed', ha', hread'⟩ :=
            readDashed_withoutWrite hdashed ha hread
          · rw [hnone, ← hg]
            exact readArguments_withoutWrite hrest
          · rw [hsome]
            exact (readArguments_dashed_eq_ok_iff hdashed' ha').mpr
              (.inl ⟨_, hread', readArguments_withoutWrite hrest⟩)
        · obtain ⟨-, hnone, -⟩ | ⟨a', hsome, hdashed', ha', hread'⟩ :=
            readDashed_withoutWrite hdashed ha hread
          · cases hnone
          · rw [hsome, withoutWrite_cons_of_not_isDashed hvalue]
            exact (readArguments_dashed_eq_ok_iff hdashed' ha').mpr (.inr ⟨_, s, value, _, _, rfl,
              hread', hvalue, Given.addParameter_withoutWrite hadd,
              readArguments_withoutWrite hrest⟩)
termination_by args.length

/-- An action that prints what it generates. -/
def Action.withoutWrite : Action → Action
  | generate kind source name _ => generate kind source name false
  | pick source kind _ => pick source kind false
  | action => action

theorem sourceArguments_withoutWrite (g : Given) :
    sourceArguments g.withoutWrite = sourceArguments g := by
  rw [sourceArguments, sourceArguments, Given.has_withoutWrite (by decide)]
  rfl

theorem mem_commands_of_lookup {name : Text} {command : Grammar × (Given → Action)}
    (h : commands.lookup name = some command) : (name, command) ∈ commands := by
  obtain ⟨l, r, hsplit, -⟩ := List.lookup_eq_some_iff.mp h
  rw [hsplit]
  exact List.mem_append_right _ List.mem_cons_self

theorem isDashed_of_mem_commands {command : Text × Grammar × (Given → Action)}
    (h : command ∈ commands) : isDashed command.1 = false := by
  have hall : commands.all (fun c => !isDashed c.1) = true := rfl
  simpa using List.all_eq_true.mp hall command h

theorem action_withoutWrite {command : Text × Grammar × (Given → Action)}
    (h : command ∈ commands) (g : Given) :
    command.2.2 g.withoutWrite = (command.2.2 g).withoutWrite := by
  have hgenerate (kind : Kind) :
      generateAction kind g.withoutWrite = (generateAction kind g).withoutWrite := by
    rw [generateAction, sourceArguments_withoutWrite, g.not_has_write]
    rfl
  simp only [commands, List.mem_cons, List.not_mem_nil, or_false] at h
  obtain rfl | rfl | rfl | rfl | rfl | rfl := h
  · exact hgenerate .getters
  · exact hgenerate .setters
  · exact hgenerate .both
  · change Action.list _ _ = _
    rw [sourceArguments_withoutWrite, Given.has_withoutWrite (by decide)]
    rfl
  · change pickAction _ = _
    rw [pickAction, sourceArguments_withoutWrite, g.not_has_write]
    rfl
  · rfl

theorem readInvocation_withoutWrite {args : List Text} {i : Invocation}
    (h : readInvocation g args = .ok i) :
    readInvocation g.withoutWrite (withoutWrite args) =
      .ok { i with action := i.action.withoutWrite } := by
  induction args generalizing g with
  | nil => cases h
  | cons a rest ih =>
    rw [readInvocation] at h
    split at h
    · next hdashed =>
      simp only [Bool.and_eq_true, bne_iff_ne] at hdashed
      obtain ⟨hdashed, ha⟩ := hdashed
      obtain ⟨⟨g₁, parameter?⟩, hread, hrest⟩ := bind_eq_ok_iff.mp h
      rw [withoutWrite, if_neg ha]
      obtain ⟨hnone, -, hg⟩ | ⟨a', hsome, hdashed', ha', hread'⟩ :=
        readDashed_withoutWrite hdashed ha hread
      · rw [hnone, ← hg]
        exact ih hrest
      · rw [hsome]
        change readInvocation g.withoutWrite (a' :: withoutWrite rest) = _
        rw [readInvocation, if_pos (by simp [hdashed', ha'])]
        exact bind_eq_ok_iff.mpr ⟨_, hread', ih hrest⟩
    · next hplain =>
      split at h
      · cases h
      · next hhelp =>
        split at h
        · cases h
        · next grammar action hlookup =>
          have hcommand := mem_commands_of_lookup hlookup
          obtain ⟨sub, hsub, rfl⟩ := map_eq_ok_iff.mp h
          rw [withoutWrite_cons_of_not_isDashed (isDashed_of_mem_commands hcommand), readInvocation,
            if_neg hplain,
            if_neg hhelp, hlookup]
          refine map_eq_ok_iff.mpr ⟨_, readArguments_withoutWrite hsub, ?_⟩
          rw [Given.has_withoutWrite (by decide), Given.has_withoutWrite (by decide),
            ← action_withoutWrite hcommand]

end Command

end Accessors

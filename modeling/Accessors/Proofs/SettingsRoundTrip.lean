import Accessors.Proofs.CatalogueLaws
import Accessors.Proofs.WrittenDocuments

/-!
# Settings are read back from their text

Written settings are pairs of the root table, and a table for each user template. Their statements,
carried out in order, build these tables again, and the settings of the tables are those written.
-/

namespace Accessors

namespace Toml

namespace Entries

variable {es : Entries} {k : Text}

theorem lookup_last (h : es.lookup k = none) (v : Value) : (es ++ [(k, v)]).lookup k = some v := by
  rw [List.lookup_append, h, List.lookup_cons_self, Option.none_or]

theorem replace_last (h : es.lookup k = none) (v w : Value) :
    replace k w (es ++ [(k, v)]) = es ++ [(k, w)] := by
  have hne : ∀ e ∈ es, e.1 ≠ k := by
    intro e he heq
    have hkey := List.lookup_eq_none_iff.mp h e he
    rw [heq] at hkey
    simp at hkey
  have hes : es.map (fun e => if e.1 = k then (k, w) else e) = es := by
    refine (List.map_congr_left fun e he => ?_).trans (List.map_id es)
    rw [if_neg (hne e he)]
    rfl
  rw [replace, List.map_append, hes]
  simp

theorem within_last (h : es.lookup k = none) (change : Entries → Option Entries) (ks : List Text)
    (origin : Origin) (sub : Entries) :
    within change (k :: ks) (es ++ [(k, .table origin sub)]) =
      (within change ks sub).map fun sub => es ++ [(k, .table origin sub)] := by
  rw [within, lookup_last h]
  simp only [replace_last h]

def pairs (es : Entries) : List Statement :=
  es.map fun e => .pair [e.1] e.2

theorem lookup_eq_none_of_nodup {e : Text × Value} {fs : Entries}
    (h : ((es ++ e :: fs).map Prod.fst).Nodup) : es.lookup e.1 = none := by
  refine List.lookup_eq_none_iff.mpr fun d hd => ?_
  rw [List.map_append] at h
  have hne := (List.nodup_append.mp h).2.2 d.1 (List.mem_map_of_mem hd) e.1 List.mem_cons_self
  simpa using hne.symm

/-- Pairs extend the table that the path leads to; `plug` is the document around that table. -/
theorem foldlM_pairs {plug : Entries → Entries} {path : List Text}
    (hplug : ∀ change sub, within change path (plug sub) = (change sub).map plug)
    (es fs : Entries) (hkeys : ((es ++ fs).map Prod.fst).Nodup) :
    (pairs fs).foldlM Progress.step ⟨plug es, path⟩ = some ⟨plug (es ++ fs), path⟩ := by
  induction fs generalizing es with
  | nil => rw [List.append_nil]; rfl
  | cons e fs ih =>
    obtain ⟨k, v⟩ := e
    have hput : put v [k] es = some (es ++ [(k, v)]) := by
      rw [put, lookup_eq_none_of_nodup hkeys]
      rfl
    have hstep : Progress.step ⟨plug es, path⟩ (.pair [k] v) =
        some ⟨plug (es ++ [(k, v)]), path⟩ := by
      rw [Progress.step, hplug, hput]
      rfl
    have hrest := ih (es ++ [(k, v)]) (by rwa [← List.append_cons])
    rw [← List.append_cons] at hrest
    rw [pairs, List.map_cons, List.foldlM_cons, hstep]
    exact hrest

def ofFields (fs : List (Text × Option Value)) : Entries :=
  fs.flatMap fun f => f.2.toList.map fun v => (f.1, v)

theorem keys_ofFields (fs : List (Text × Option Value)) :
    ((ofFields fs).map Prod.fst).Sublist (fs.map Prod.fst) := by
  induction fs with
  | nil => exact .slnil
  | cons f fs ih =>
    obtain ⟨k, o⟩ := f
    cases o with
    | none => exact ih.cons k
    | some v => exact ih.cons_cons k

theorem lookup_ofFields {fs : List (Text × Option Value)} (hkeys : (fs.map Prod.fst).Nodup)
    {o : Option Value} (h : (k, o) ∈ fs) : (ofFields fs).lookup k = o := by
  induction fs with
  | nil => cases h
  | cons f fs ih =>
    obtain ⟨hf, hfs⟩ := List.nodup_cons.mp hkeys
    rcases List.mem_cons.mp h with rfl | hmem
    · cases o with
      | some v => exact List.lookup_cons_self
      | none =>
        refine List.lookup_eq_none_iff.mpr fun e he => ?_
        have hne : k ≠ e.1 := by
          rintro rfl
          exact hf ((keys_ofFields fs).subset (List.mem_map_of_mem he))
        simpa using hne
    · obtain ⟨j, o'⟩ := f
      have hne : k ≠ j := by
        rintro rfl
        exact hf (List.mem_map.mpr ⟨_, hmem, rfl⟩)
      have hrest := ih hfs hmem
      cases o' with
      | none => exact hrest
      | some v => exact (Text.lookup_cons j k v _).trans ((if_neg hne).trans hrest)

end Entries

end Toml

namespace Settings

open Toml Toml.Entries

/-- The fields of a user template, by the keys of `userKeys`. -/
def userFields (u : UserTemplate) : List (Text × Option Value) :=
  [("base", u.base.map .text),
   ("style", u.style.map fun s => .text s.key),
   ("getter", u.getter.map .text),
   ("setter", u.setter.map .text),
   ("prefix_private_setters", u.marksPrivate.map .flag)]

def userTable (e : Text × UserTemplate) : Text × Value :=
  (e.1, .table .header (ofFields (userFields e.2)))

def userStatements (e : Text × UserTemplate) : List Statement :=
  .header ["templates".toList, e.1] :: pairs (ofFields (userFields e.2))

def rootEntries (s : Settings) : Entries :=
  [("template", .text s.template),
   ("ignore_visibility", .flag s.ignoreVisibility),
   ("type_hint_ignore", .array (s.hintIgnore.map .text)),
   ("setter_before_getter", .flag s.setterFirst),
   ("use_tabs", .flag s.useTabs)]

def statements (s : Settings) : List Statement :=
  pairs s.rootEntries ++
    if s.templates.isEmpty then [.header ["templates".toList]]
    else s.templates.entries.flatMap userStatements

/-- A field that need not be there is read as it was written. -/
theorem reads_field {α : Type} {k : Text} {w : α → Text} {val : α → Value} (hk : isBareKey k = true)
    (hw : ∀ a, Shows (w a) (val a)) (o : Option α) {rest : Text} {fs : List (Text × Option Value)}
    {ss : List Statement} (h : Reads rest (pairs (ofFields fs) ++ ss)) :
    Reads (o.elim [] (fun a => writePair k (w a)) ++ rest)
      (pairs (ofFields ((k, o.map val) :: fs)) ++ ss) := by
  cases o with
  | none => exact h
  | some a => exact Reads.pair hk (hw a) h

theorem reads_writeUser (e : Text × UserTemplate) {rest : Text} {ss : List Statement}
    (h : Reads rest ss) : Reads (writeUser e.1 e.2 ++ rest) (userStatements e ++ ss) := by
  -- The text is read from its end backwards: each field stands before what is read already.
  have hnone : Reads rest (pairs (ofFields []) ++ ss) := h
  have hmarks := reads_field (show isBareKey "prefix_private_setters" = true from rfl)
    shows_writeFlag e.2.marksPrivate hnone
  have hsetter := reads_field (show isBareKey "setter" = true from rfl)
    shows_writeText e.2.setter hmarks
  have hgetter := reads_field (show isBareKey "getter" = true from rfl)
    shows_writeText e.2.getter hsetter
  have hstyle := reads_field (show isBareKey "style" = true from rfl)
    (fun s : Style => shows_writeText s.key) e.2.style hgetter
  have hbase := reads_field (show isBareKey "base" = true from rfl)
    shows_writeText e.2.base hstyle
  unfold writeUser
  simp only [List.append_assoc]
  exact (Reads.userHeader e.1 hbase).newline

theorem reads_users (users : List (Text × UserTemplate)) :
    Reads (users.flatMap fun (name, u) => writeUser name u) (users.flatMap userStatements) := by
  induction users with
  | nil => exact Reads.nil
  | cons e users ih => exact reads_writeUser e ih

theorem reads_noUsers : Reads "\n[templates]\n".toList [.header ["templates".toList]] := by
  have hread : statement? "[templates]\n".toList = some (.header ["templates".toList], []) := by
    rfl
  exact (Reads.statement rfl (by decide) rfl hread (by decide) Reads.nil).newline

theorem reads_write (s : Settings) : Reads s.write s.statements := by
  have husers : Reads
      (if s.templates.isEmpty then "\n[templates]\n".toList
        else s.templates.entries.flatMap fun (name, u) => writeUser name u)
      (if s.templates.isEmpty then [.header ["templates".toList]]
        else s.templates.entries.flatMap userStatements) := by
    split
    · exact reads_noUsers
    · exact reads_users s.templates.entries
  have htabs := Reads.pair (show isBareKey "use_tabs" = true from rfl)
    (shows_writeFlag s.useTabs) husers
  have hfirst := Reads.pair (show isBareKey "setter_before_getter" = true from rfl)
    (shows_writeFlag s.setterFirst) htabs
  have hhints := Reads.pair (show isBareKey "type_hint_ignore" = true from rfl)
    (shows_writeTexts s.hintIgnore) hfirst
  have hignore := Reads.pair (show isBareKey "ignore_visibility" = true from rfl)
    (shows_writeFlag s.ignoreVisibility) hhints
  unfold write
  simp only [List.append_assoc]
  exact Reads.pair (show isBareKey "template" = true from rfl)
    (shows_writeText s.template) hignore

theorem nodup_userFields (u : UserTemplate) : ((userFields u).map Prod.fst).Nodup := by
  change userKeys.Nodup
  decide

theorem lookup_rootEntries (s : Settings) : s.rootEntries.lookup "templates".toList = none :=
  rfl

/-- A document of pairs, and of user templates if there are any. -/
def withUsers (root : Entries) : Entries → Entries
  | [] => root
  | users => root ++ [("templates".toList, .table .implied users)]

theorem withUsers_concat (root users : Entries) (e : Text × Value) :
    withUsers root (users ++ [e]) =
      root ++ [("templates".toList, .table .implied (users ++ [e]))] := by
  cases users <;> rfl

theorem openTable_user {root users : Entries} {name : Text}
    (hroot : root.lookup "templates".toList = none) (hname : users.lookup name = none) :
    openTable ["templates".toList, name] (withUsers root users) =
      some (withUsers root (users ++ [(name, .table .header [])])) := by
  have hopen : openTable [name] users = some (users ++ [(name, .table .header [])]) := by
    rw [openTable, hname]
  rw [withUsers_concat]
  cases users with
  | nil =>
    rw [withUsers, openTable, hroot]
    · rfl
    · exact List.cons_ne_nil _ _
  | cons e users =>
    rw [withUsers, openTable, lookup_last hroot]
    · simp only [hopen, Option.map_some, replace_last hroot]
    · exact List.cons_ne_nil _ _
    · exact List.cons_ne_nil _ _

/-- A user template's header and pairs add its table. -/
theorem foldlM_user {root users fs : Entries} {name : Text}
    (hroot : root.lookup "templates".toList = none) (hname : users.lookup name = none)
    (hkeys : (fs.map Prod.fst).Nodup) (path : List Text) :
    (Statement.header ["templates".toList, name] :: pairs fs).foldlM Progress.step
        ⟨withUsers root users, path⟩ =
      some ⟨withUsers root (users ++ [(name, .table .header fs)]), ["templates".toList, name]⟩ := by
  have hplug : ∀ change sub,
      within change ["templates".toList, name]
          (withUsers root (users ++ [(name, .table .header sub)])) =
        (change sub).map fun sub => withUsers root (users ++ [(name, .table .header sub)]) := by
    intro change sub
    simp only [withUsers_concat]
    rw [within_last hroot, within_last hname, within, Option.map_map]
    rfl
  rw [List.foldlM_cons, Progress.step, openTable_user hroot hname]
  exact foldlM_pairs hplug [] fs hkeys

/-- The statements of user templates, carried out in order, make their tables in order. -/
theorem foldlM_users {root : Entries} (hroot : root.lookup "templates".toList = none)
    (users : List (Text × UserTemplate)) (seen : Entries)
    (hnames : ((seen ++ users.map userTable).map Prod.fst).Nodup) (path : List Text) :
    ∃ path', (users.flatMap userStatements).foldlM Progress.step ⟨withUsers root seen, path⟩ =
      some ⟨withUsers root (seen ++ users.map userTable), path'⟩ := by
  induction users generalizing seen path with
  | nil =>
    refine ⟨path, ?_⟩
    rw [List.map_nil, List.append_nil]
    rfl
  | cons e users ih =>
    have hname : seen.lookup e.1 = none := lookup_eq_none_of_nodup hnames
    have hkeys := (nodup_userFields e.2).sublist (keys_ofFields (userFields e.2))
    have huser := foldlM_user hroot hname hkeys path
    rw [List.map_cons, List.append_cons] at hnames ⊢
    obtain ⟨path', hrest⟩ := ih (seen ++ [userTable e]) hnames ["templates".toList, e.1]
    refine ⟨path', ?_⟩
    rw [List.flatMap_cons, List.foldlM_append, userStatements, huser]
    exact hrest

theorem optionalEntry_map {α : Type} {es : Entries} {k : Text} {read? : Value → Option α}
    {o : Option α} (w : α → Value) (h : es.lookup k = o.map w)
    (hread : ∀ a, read? (w a) = some a) : optionalEntry es k read? = some o := by
  rw [optionalEntry, h]
  cases o with
  | none => rfl
  | some a => exact congrArg (Option.map some) (hread a)

theorem hasOnly_of_subset {keys : List Text} {es : Entries} (h : es.map Prod.fst ⊆ keys) :
    hasOnly keys es = true := by
  refine List.all_eq_true.mpr fun e he => ?_
  exact List.contains_iff_mem.mpr (h (List.mem_map_of_mem he))

theorem userTemplate?_userTable (e : Text × UserTemplate) :
    userTemplate? (userTable e).2 = some e.2 := by
  obtain ⟨name, u⟩ := e
  have hnodup := nodup_userFields u
  have hkeys : hasOnly userKeys (ofFields (userFields u)) = true :=
    hasOnly_of_subset (keys_ofFields (userFields u)).subset
  have hbase : optionalEntry (ofFields (userFields u)) "base" text? = some u.base :=
    optionalEntry_map Value.text (lookup_ofFields hnodup (by simp [userFields])) fun _ => rfl
  have hstyle : optionalEntry (ofFields (userFields u)) "style" style? = some u.style :=
    optionalEntry_map (fun s : Style => .text s.key) (lookup_ofFields hnodup (by simp [userFields]))
      fun s => by cases s <;> rfl
  have hgetter : optionalEntry (ofFields (userFields u)) "getter" text? = some u.getter :=
    optionalEntry_map Value.text (lookup_ofFields hnodup (by simp [userFields])) fun _ => rfl
  have hsetter : optionalEntry (ofFields (userFields u)) "setter" text? = some u.setter :=
    optionalEntry_map Value.text (lookup_ofFields hnodup (by simp [userFields])) fun _ => rfl
  have hmarks : optionalEntry (ofFields (userFields u)) "prefix_private_setters" flag? =
      some u.marksPrivate :=
    optionalEntry_map Value.flag (lookup_ofFields hnodup (by simp [userFields])) fun _ => rfl
  change (if hasOnly userKeys (ofFields (userFields u)) = true then _ else none) = _
  rw [if_pos hkeys, hbase, hstyle, hgetter, hsetter, hmarks]
  rfl

/-- Tables read in ascending order of their names each come last in the map. -/
theorem foldlM_userTable {m : NameMap UserTemplate} (users : List (Text × UserTemplate))
    (seen : NameMap UserTemplate) (h : m.entries = seen.entries ++ users) :
    (users.map userTable).foldlM
        (fun m e => (userTemplate? e.2).map fun u => m.insert e.1 u) seen = some m := by
  induction users generalizing seen with
  | nil =>
    rw [List.append_nil] at h
    rw [NameMap.eq_of_entries h]
    rfl
  | cons e users ih =>
    have hlt : ∀ d ∈ seen.entries, d.1 < e.1 := by
      intro d hd
      exact ((NameMap.mem_before_iff h).mp hd).2
    have hinsert : (seen.insert e.1 e.2).entries = seen.entries ++ [e] :=
      NameMap.insertEntry_of_forall_lt hlt
    have hrest := ih (seen.insert e.1 e.2) (by rw [hinsert, h, List.append_cons])
    rw [List.map_cons, List.foldlM_cons, userTemplate?_userTable]
    exact hrest

theorem userTemplates?_users (m : NameMap UserTemplate) (origin : Origin) :
    userTemplates? (.table origin (m.entries.map userTable)) = some m :=
  foldlM_userTable m.entries ∅ rfl

theorem texts?_map (ts : List Text) : texts? (.array (ts.map .text)) = some ts := by
  rw [texts?]
  induction ts with
  | nil => rfl
  | cons t ts ih =>
    rw [List.map_cons, List.mapM_cons, ih]
    rfl

theorem foldlM_rootEntries (s : Settings) :
    (pairs s.rootEntries).foldlM Progress.step {} = some ⟨s.rootEntries, []⟩ :=
  @foldlM_pairs id [] (fun _ _ => Option.map_id'.symm) [] s.rootEntries
    (show (settingKeys.dropLast).Nodup by decide)

/-- The entries of a written document, with a table that holds the user templates. -/
theorem exists_foldlM_statements (s : Settings) :
    ∃ v path, s.statements.foldlM Progress.step {} =
        some ⟨s.rootEntries ++ [("templates".toList, v)], path⟩ ∧
      userTemplates? v = some s.templates := by
  have husers := fun origin => userTemplates?_users s.templates origin
  rw [statements, List.foldlM_append, foldlM_rootEntries]
  cases hentries : s.templates.entries with
  | nil =>
    -- Here a header opens the table itself; otherwise the headers of the templates imply it.
    rw [hentries] at husers
    rw [NameMap.isEmpty, hentries]
    exact ⟨.table .header [], ["templates".toList], rfl, husers .header⟩
  | cons e users =>
    have hnames : (([] ++ s.templates.entries.map userTable).map Prod.fst).Nodup := by
      rw [List.nil_append, List.map_map]
      exact s.templates.nodup_names
    obtain ⟨path, hfold⟩ := foldlM_users s.lookup_rootEntries s.templates.entries [] hnames []
    rw [hentries] at husers hfold
    rw [NameMap.isEmpty, hentries]
    exact ⟨.table .implied ((e :: users).map userTable), path, hfold, husers .implied⟩

theorem ofEntries?_tables {s : Settings} {v : Value} (h : userTemplates? v = some s.templates) :
    ofEntries? (s.rootEntries ++ [("templates".toList, v)]) = some s := by
  have hkeys : hasOnly settingKeys (s.rootEntries ++ [("templates".toList, v)]) = true := rfl
  have hhints : optionalEntry (s.rootEntries ++ [("templates".toList, v)]) "type_hint_ignore"
      texts? = some (some s.hintIgnore) :=
    congrArg (Option.map some) (texts?_map s.hintIgnore)
  have husers : optionalEntry (s.rootEntries ++ [("templates".toList, v)]) "templates"
      userTemplates? = some (some s.templates) :=
    congrArg (Option.map some) h
  unfold ofEntries?
  simp only [hkeys, hhints, husers]
  rfl

theorem read?_write (s : Settings) : read? s.write = some s := by
  obtain ⟨v, path, hfold, husers⟩ := s.exists_foldlM_statements
  have hmark : dropMark s.write = s.write := rfl
  rw [read?, document?_of_reads hmark s.reads_write, hfold, Option.map_some, Option.bind_some]
  exact ofEntries?_tables husers

/-- Accepted settings are written to a text that is read and accepted as the same settings. -/
theorem parse_write (s : Settings) (h : s.validate = .ok ()) : parse s.write = .ok s := by
  rw [parse, read?_write]
  exact congrArg (Except.map fun _ => s) h

/-- Texts with quotes, backslashes, line ends and control characters, in every place for one. -/
def unrulySettings : Settings where
  template := "it's \"mine\"\t\\"
  ignoreVisibility := true
  hintIgnore := ["", "\n'''\"\"\"\"", "a\r\nb\\", "\x00\x7f'"]
  templates := (∅ : NameMap UserTemplate)
    |>.insert "it's \"mine\"\t\\" { base := some "SnakeCase", getter := some "\n\"\"\"'''\r\x1b" }
    |>.insert "" {
      style := some .camel, getter := some "'", setter := some "\n\n''"
      marksPrivate := some false }
    |>.insert "two\nlines" { base := some "PSR2", style := some .snake }

theorem parse_write_unrulySettings :
    unrulySettings.validate = .ok () ∧ parse unrulySettings.write = .ok unrulySettings := by
  have h : unrulySettings.validate = .ok () := by decide
  exact ⟨h, parse_write unrulySettings h⟩

end Settings

end Accessors

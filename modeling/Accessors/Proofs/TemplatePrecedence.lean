import Accessors.Proofs.ByteOrder
import Accessors.Proofs.CatalogueLaws
import Accessors.Proofs.ExceptLaws
import Accessors.Proofs.RenderingVerdicts
import Accessors.Settings.Basic

/-!
# Which template a name means

Settings yield a catalogue unless one of their templates is refused, and then the first such
template in the order of the names is reported. In the catalogue a name means the user's template,
if there is one, or else the standard template of that name. What a user template leaves out is
taken from the standard template that it starts from, also where the user has replaced that one.
-/

namespace Accessors

open Text

namespace Standard

theorem ofName?_eq_some_iff {n : Text} {b : Standard} : ofName? n = some b ↔ b.name = n := by
  constructor
  · intro h
    exact beq_iff_eq.mp (List.find?_some (p := fun s : Standard => s.name == n) h)
  · rintro rfl
    cases b <;> rfl

theorem ofName?_eq_none_iff {n : Text} : ofName? n = none ↔ ∀ b : Standard, b.name ≠ n := by
  rw [Option.eq_none_iff_forall_ne_some]
  exact forall_congr' fun b => not_congr ofName?_eq_some_iff

end Standard

namespace UserTemplate

/-- The template that a user template of this name stands for if it starts from `base`. Each part is
the user's own if it is given, and else that of the standard template. Where there is neither,
private members are marked, and the other parts are missing. -/
structure Describes (name : Text) (u : UserTemplate) (base : Option Standard) (t : Template) :
    Prop where
  base_eq : u.base = base.map Standard.name
  name_eq : t.name = name
  style_eq : u.style.or (base.map fun b => b.template.style) = some t.style
  getter_eq : u.getter.or (base.map fun b => b.template.getter) = some t.getter
  setter_eq : u.setter.or (base.map fun b => b.template.setter) = some t.setter
  marksPrivate_eq :
    t.marksPrivate = (u.marksPrivate.or (base.map fun b => b.template.marksPrivate)).getD true

/-- The reasons for which a user template is refused, each with its complaint. They exclude each
other: each is that of the first check that fails. -/
inductive Refused (name : Text) (u : UserTemplate) : SettingsError → Prop
  | base (b : Text) (hbase : u.base = some b) (hunknown : ∀ s : Standard, s.name ≠ b) :
      Refused name u (.unknownBase name b)
  | style (hbase : u.base = none) (hstyle : u.style = none) :
      Refused name u (.incomplete name "style")
  | getter (hbase : u.base = none) (hstyle : u.style ≠ none) (hgetter : u.getter = none) :
      Refused name u (.incomplete name "getter")
  | setter (hbase : u.base = none) (hstyle : u.style ≠ none) (hgetter : u.getter ≠ none)
      (hsetter : u.setter = none) : Refused name u (.incomplete name "setter")
  | placeholder (base : Option Standard) (t : Template) (k : Text) (ht : u.Describes name base t)
      (hk : (Body.stray? t.getter).or (Body.stray? t.setter) = some k) :
      Refused name u (.template (.unknownPlaceholder name k))

variable {name : Text} {u : UserTemplate} {t : Template} {e : SettingsError}

theorem part_eq_ok_iff {α : Type} {own : Option α} {base : Option Template} {get : Template → α}
    {what : Text} {a : α} :
    part name own base get what = .ok a ↔ own.or (base.map get) = some a := by
  rw [part]
  cases own.or (base.map get) <;> simp

theorem part_eq_error_iff {α : Type} {own : Option α} {base : Option Template}
    {get : Template → α} {what : Text} :
    part name own base get what = .error e ↔
      own = none ∧ base = none ∧ e = .incomplete name what := by
  rw [part]
  cases own <;> cases base <;> simp [eq_comm]

theorem inherited_eq_ok_iff {inherited? : Option Template} :
    u.inherited name = .ok inherited? ↔ ∃ base : Option Standard,
      u.base = base.map Standard.name ∧ inherited? = base.map Standard.template := by
  rw [inherited]
  cases hbase : u.base with
  | none =>
    constructor
    · intro h
      exact ⟨none, rfl, (Except.ok.inj h).symm⟩
    · rintro ⟨base, hname, rfl⟩
      cases base with
      | none => rfl
      | some b => cases hname
  | some n =>
    dsimp only
    constructor
    · intro h
      cases hb : Standard.ofName? n with
      | none =>
        rw [hb] at h
        cases h
      | some b =>
        rw [hb] at h
        refine ⟨some b, ?_, (Except.ok.inj h).symm⟩
        rw [← Standard.ofName?_eq_some_iff.mp hb]
        rfl
    · rintro ⟨base, hname, rfl⟩
      cases base with
      | none => cases hname
      | some b =>
        obtain rfl := Option.some.inj hname
        rw [Standard.ofName?_eq_some_iff.mpr rfl]
        rfl

theorem inherited_eq_error_iff :
    u.inherited name = .error e ↔ ∃ b, u.base = some b ∧ (∀ s : Standard, s.name ≠ b) ∧
      e = .unknownBase name b := by
  rw [inherited]
  cases hbase : u.base with
  | none => simp
  | some n =>
    simp only [← Standard.ofName?_eq_none_iff]
    cases hb : Standard.ofName? n with
    | none => simp [hb, eq_comm]
    | some b => simp [hb]

theorem build_eq_ok_iff : u.build name = .ok t ↔ ∃ base, u.Describes name base t := by
  simp only [build, bind, bind_eq_ok_iff, part_eq_ok_iff, inherited_eq_ok_iff]
  constructor
  · rintro ⟨_, ⟨base, hbase, rfl⟩, style, hstyle, getter, hgetter, setter, hsetter, ht⟩
    obtain rfl := Except.ok.inj ht
    simp only [Option.map_map, Function.comp_def] at hstyle hgetter hsetter
    refine ⟨base, hbase, rfl, hstyle, hgetter, hsetter, ?_⟩
    simp only [Option.map_map, Function.comp_def]
  · rintro ⟨base, hbase, rfl, hstyle, hgetter, hsetter, hmarks⟩
    refine ⟨_, ⟨base, hbase, rfl⟩, t.style, ?_, t.getter, ?_, t.setter, ?_, ?_⟩ <;>
      simp only [Option.map_map, Function.comp_def]
    · exact hstyle
    · exact hgetter
    · exact hsetter
    · rw [← hmarks]
      rfl

/-- A user template that cannot be built is refused for the base that it names, or for the first
part that it lacks. -/
theorem refused_of_build (h : u.build name = .error e) : u.Refused name e := by
  simp only [build, bind, bind_eq_error_iff, inherited_eq_error_iff, inherited_eq_ok_iff,
    part_eq_error_iff, part_eq_ok_iff] at h
  rcases h with ⟨b, hbase, hunknown, rfl⟩ | ⟨_, ⟨base, hbase, rfl⟩, h⟩
  · exact .base b hbase hunknown
  · cases base with
    | some b => simp [pure, Except.pure] at h
    | none =>
      simp only [Option.map_none, Option.or_none, true_and] at h
      rcases h with ⟨hstyle, rfl⟩ | ⟨style, hstyle, h⟩
      · exact .style hbase hstyle
      · rcases h with ⟨hgetter, rfl⟩ | ⟨getter, hgetter, h⟩
        · exact .getter hbase (by simp [hstyle]) hgetter
        · rcases h with ⟨hsetter, rfl⟩ | ⟨setter, -, h⟩
          · exact .setter hbase (by simp [hstyle]) (by simp [hgetter]) hsetter
          · cases h

end UserTemplate

namespace Settings

variable {tabs : Bool} {name : Text} {u : UserTemplate} {e : SettingsError}

theorem userTemplate_eq_ok_iff {r : Template} :
    userTemplate tabs name u = .ok r ↔ ∃ t, u.build name = .ok t ∧ t.validate = .ok () ∧
      r = t.indented tabs := by
  simp only [userTemplate, bind, bind_eq_ok_iff, mapError_eq_ok_iff]
  constructor
  · rintro ⟨t, hbuild, ⟨⟩, hvalid, hr⟩
    exact ⟨t, hbuild, hvalid, (Except.ok.inj hr).symm⟩
  · rintro ⟨t, hbuild, hvalid, rfl⟩
    exact ⟨t, hbuild, (), hvalid, rfl⟩

/-- A template is turned away exactly for the reasons that refuse it. -/
theorem userTemplate_eq_error_iff : userTemplate tabs name u = .error e ↔ u.Refused name e := by
  simp only [userTemplate, bind, bind_eq_error_iff, mapError_eq_error_iff,
    Template.validate_eq_error_iff, ← Option.or_eq_some_iff]
  constructor
  · rintro (h | ⟨t, hbuild, ⟨_, ⟨k, rfl, hk⟩, rfl⟩ | ⟨-, -, h⟩⟩)
    · exact UserTemplate.refused_of_build h
    · obtain ⟨base, ht⟩ := UserTemplate.build_eq_ok_iff.mp hbuild
      rw [ht.name_eq]
      exact .placeholder base t k ht hk
    · cases h
  · intro h
    cases h with
    | base b hbase hunknown =>
      left
      rw [UserTemplate.build, UserTemplate.inherited_eq_error_iff.mpr ⟨b, hbase, hunknown, rfl⟩]
      rfl
    | style hbase hstyle =>
      left
      rw [UserTemplate.build, UserTemplate.inherited, hbase, hstyle]
      rfl
    | getter hbase hstyle hgetter =>
      left
      obtain ⟨style, hstyle⟩ := Option.ne_none_iff_exists'.mp hstyle
      rw [UserTemplate.build, UserTemplate.inherited, hbase, hstyle, hgetter]
      rfl
    | setter hbase hstyle hgetter hsetter =>
      left
      obtain ⟨style, hstyle⟩ := Option.ne_none_iff_exists'.mp hstyle
      obtain ⟨getter, hgetter⟩ := Option.ne_none_iff_exists'.mp hgetter
      rw [UserTemplate.build, UserTemplate.inherited, hbase, hstyle, hgetter, hsetter]
      rfl
    | placeholder base t k ht hk =>
      right
      refine ⟨t, UserTemplate.build_eq_ok_iff.mpr ⟨base, ht⟩, .inl ⟨_, ⟨k, rfl, hk⟩, ?_⟩⟩
      rw [ht.name_eq]

/-- The settings fail with the first template that is refused. -/
theorem addUsers_eq_error_iff {c : Catalogue} {us : List (Text × UserTemplate)} :
    addUsers tabs c us = .error e ↔ ∃ before n w after, us = before ++ (n, w) :: after ∧
      (∀ p ∈ before, ∃ t, userTemplate tabs p.1 p.2 = .ok t) ∧ w.Refused n e := by
  induction us generalizing c with
  | nil => simp [addUsers]
  | cons p us ih =>
    obtain ⟨m, w⟩ := p
    simp only [addUsers, bind, bind_eq_error_iff, ih, userTemplate_eq_error_iff]
    constructor
    · rintro (h | ⟨t, ht, before, n, w', after, rfl, hbefore, h⟩)
      · exact ⟨[], m, w, us, rfl, by simp, h⟩
      · exact ⟨(m, w) :: before, n, w', after, rfl, List.forall_mem_cons.mpr ⟨⟨t, ht⟩, hbefore⟩, h⟩
    · rintro ⟨before, n, w', after, hus, hbefore, h⟩
      cases before with
      | nil =>
        obtain ⟨heq, -⟩ := List.cons.inj hus
        obtain ⟨rfl, rfl⟩ := Prod.mk.inj heq
        exact .inl h
      | cons q before =>
        obtain ⟨rfl, rfl⟩ := List.cons.inj hus
        obtain ⟨⟨t, ht⟩, hbefore⟩ := List.forall_mem_cons.mp hbefore
        exact .inr ⟨t, ht, before, n, w', after, rfl, hbefore, h⟩

theorem name_of_userTemplate {t : Template} (h : userTemplate tabs name u = .ok t) :
    t.name = name := by
  obtain ⟨t, hbuild, -, rfl⟩ := userTemplate_eq_ok_iff.mp h
  obtain ⟨base, ht⟩ := UserTemplate.build_eq_ok_iff.mp hbuild
  cases tabs <;> exact ht.name_eq

/-- What each name means once the user templates are added, if no two have the same name. -/
theorem find?_of_addUsers {c d : Catalogue} {us : List (Text × UserTemplate)}
    (hus : (us.map Prod.fst).Nodup) (h : addUsers tabs c us = .ok d) :
    (∀ p ∈ us, ∃ t, userTemplate tabs p.1 p.2 = .ok t ∧ d.find? p.1 = some t) ∧
      ∀ n ∉ us.map Prod.fst, d.find? n = c.find? n := by
  induction us generalizing c with
  | nil =>
    obtain rfl : c = d := Except.ok.inj h
    simp
  | cons p us ih =>
    obtain ⟨m, w⟩ := p
    simp only [addUsers, bind, bind_eq_ok_iff] at h
    obtain ⟨t, ht, h⟩ := h
    obtain ⟨hm, hus⟩ := List.nodup_cons.mp hus
    obtain ⟨husers, hothers⟩ := ih hus h
    have hadd : ∀ n, (c.add t).find? n = if n = m then some t else c.find? n := by
      intro n
      rw [Catalogue.add, NameMap.find?_insert, name_of_userTemplate ht]
    refine ⟨List.forall_mem_cons.mpr ⟨⟨t, ht, ?_⟩, husers⟩, fun n hn => ?_⟩
    · -- The templates that follow have other names, so none of them replaces this one.
      rw [hothers m hm, hadd, if_pos rfl]
    · obtain ⟨hne, hn⟩ := List.ne_and_not_mem_of_not_mem_cons hn
      rw [hothers n hn, hadd, if_neg hne]

/-- The template that a name means: the user's of that name, whatever standard template it
replaces, or else the standard one. Both are indented as the settings say. -/
inductive Means (s : Settings) (n : Text) : Template → Prop
  | own (u : UserTemplate) (base : Option Standard) (t : Template)
      (hu : s.templates.find? n = some u) (ht : u.Describes n base t) :
      Means s n (t.indented s.useTabs)
  | standard (b : Standard) (hu : s.templates.find? n = none) (hb : b.name = n) :
      Means s n (b.template.indented s.useTabs)

/-- The names that are offered, each once and in the order of their bytes. -/
structure Offers (s : Settings) (names : List Text) : Prop where
  sorted : names.Pairwise fun a b => octets a < octets b
  mem_iff : ∀ n, n ∈ names ↔
    (∃ b : Standard, b.name = n) ∨ ∃ u, s.templates.find? n = some u

/-- The complaint about the first of the refused templates, in the order of the bytes of the
names. -/
def FirstRefusal (s : Settings) (e : SettingsError) : Prop :=
  ∃ n u, s.templates.find? n = some u ∧ u.Refused n e ∧
    ∀ m w, s.templates.find? m = some w → octets m < octets n → ∀ e', ¬w.Refused m e'

variable {s : Settings} {c : Catalogue} {n : Text} {t : Template}

theorem exists_userTemplate_iff :
    (∃ t, userTemplate tabs name u = .ok t) ↔ ∀ e, ¬u.Refused name e := by
  simp only [← @userTemplate_eq_error_iff tabs]
  cases userTemplate tabs name u <;> simp

theorem catalogue_eq_error_iff : s.catalogue = .error e ↔ s.FirstRefusal e := by
  simp only [catalogue, addUsers_eq_error_iff, exists_userTemplate_iff, FirstRefusal,
    NameMap.find?_eq_some_iff, ← Text.lt_iff_octets_lt]
  constructor
  · rintro ⟨before, n, u, after, hs, hbefore, hu⟩
    refine ⟨n, u, ?_, hu, fun m w hw hlt => ?_⟩
    · rw [hs]
      exact List.mem_append_right before List.mem_cons_self
    · exact hbefore (m, w) ((NameMap.mem_before_iff hs).mpr ⟨hw, hlt⟩)
  · rintro ⟨n, u, hmem, hu, hbefore⟩
    obtain ⟨before, after, hs⟩ := List.append_of_mem hmem
    refine ⟨before, n, u, after, hs, fun p hp => ?_, hu⟩
    obtain ⟨hp, hlt⟩ := (NameMap.mem_before_iff hs).mp hp
    exact hbefore p.1 p.2 hp hlt

/-- Every name means in the catalogue what the precedence of the templates says. -/
theorem find?_catalogue_iff (h : s.catalogue = .ok c) :
    c.find? n = some t ↔ s.Means n t := by
  obtain ⟨husers, hothers⟩ := find?_of_addUsers s.templates.nodup_names h
  cases hn : s.templates.find? n with
  | none =>
    have hn' : n ∉ s.templates.names := by
      rw [NameMap.mem_names_iff, hn]
      simp
    rw [hothers n hn', Catalogue.find?_standard_eq_some_iff]
    constructor
    · rintro ⟨b, hb, rfl⟩
      exact .standard b hn hb
    · rintro (⟨u, base, t, hu, ht⟩ | ⟨b, hu, hb⟩)
      · cases hn.symm.trans hu
      · exact ⟨b, hb, rfl⟩
  | some u =>
    obtain ⟨r, hr, hfind⟩ := husers (n, u) (NameMap.find?_eq_some_iff.mp hn)
    rw [hfind, Option.some_inj]
    obtain ⟨r, hbuild, hvalid, rfl⟩ := userTemplate_eq_ok_iff.mp hr
    constructor
    · rintro rfl
      obtain ⟨base, hbase⟩ := UserTemplate.build_eq_ok_iff.mp hbuild
      exact .own u base r hn hbase
    · rintro (⟨w, base, t, hw, ht⟩ | ⟨b, hu, hb⟩)
      · obtain rfl := Option.some.inj (hn.symm.trans hw)
        rw [UserTemplate.build_eq_ok_iff.mpr ⟨base, ht⟩] at hbuild
        rw [Except.ok.inj hbuild]
      · cases hn.symm.trans hu

/-- The settings fail if one of their templates is refused. -/
theorem exists_catalogue_eq_error_iff :
    (∃ e, s.catalogue = .error e) ↔
      ∃ n u e, s.templates.find? n = some u ∧ u.Refused n e := by
  constructor
  · rintro ⟨e, h⟩
    obtain ⟨n, u, hu, hrefused, -⟩ := catalogue_eq_error_iff.mp h
    exact ⟨n, u, e, hu, hrefused⟩
  · rintro ⟨n, u, e, hu, hrefused⟩
    cases h : s.catalogue with
    | error e => exact ⟨e, rfl⟩
    | ok c =>
      obtain ⟨husers, -⟩ := find?_of_addUsers s.templates.nodup_names h
      obtain ⟨t, ht, -⟩ := husers (n, u) (NameMap.find?_eq_some_iff.mp hu)
      exact absurd hrefused (exists_userTemplate_iff.mp ⟨t, ht⟩ e)

theorem offers_names (h : s.catalogue = .ok c) : s.Offers c.names where
  sorted := List.pairwise_map.mpr (c.sorted.imp Text.lt_iff_octets_lt.mp)
  mem_iff n := by
    simp only [NameMap.mem_names_iff, find?_catalogue_iff h]
    constructor
    · rintro ⟨_, ⟨u, base, t, hu, ht⟩ | ⟨b, hu, hb⟩⟩
      · exact .inr ⟨u, hu⟩
      · exact .inl ⟨b, hb⟩
    · intro hn
      cases hu : s.templates.find? n with
      | none =>
        rcases hn with ⟨b, hb⟩ | ⟨u, hu'⟩
        · exact ⟨_, .standard b hu hb⟩
        · cases hu.symm.trans hu'
      | some u =>
        obtain ⟨husers, -⟩ := find?_of_addUsers s.templates.nodup_names h
        obtain ⟨t, -, ht⟩ := husers (n, u) (NameMap.find?_eq_some_iff.mp hu)
        exact ⟨t, (find?_catalogue_iff h).mp ht⟩

end Settings

/-- In the catalogue a name means the user's template before the standard one, and any other name is
answered with all names on offer. There is no catalogue exactly if a user template is refused, and
the complaint is about the first of these in the order of their names. -/
theorem catalogue_follows_precedence (s : Settings) :
    (∀ c, s.catalogue = .ok c →
      (∀ n t, c.find n = .ok t ↔ s.Means n t) ∧
      ∃ names, s.Offers names ∧ ∀ n ∉ names,
        c.find n = .error (.unknownTemplate n names) ∧
        (TemplateError.unknownTemplate n names).message =
          "unknown template '" ++ n ++ "', available: " ++ joinWith ", " names) ∧
    ((∃ e, s.catalogue = .error e) ↔
      ∃ n u e, s.templates.find? n = some u ∧ u.Refused n e) ∧
    ∀ e, s.catalogue = .error e ↔ s.FirstRefusal e := by
  refine ⟨fun c hc => ⟨fun n t => ?_, c.names, Settings.offers_names hc, fun n hn => ?_⟩,
    Settings.exists_catalogue_eq_error_iff, fun e => Settings.catalogue_eq_error_iff⟩
  · rw [Catalogue.find_eq_ok_iff, Settings.find?_catalogue_iff hc]
  · exact ⟨Catalogue.find_eq_error hn, rfl⟩

/-- Settings that replace a standard template, and start another from the one that was replaced. -/
def layeredSettings : Settings where
  templates := ((∅ : NameMap UserTemplate).insert "CamelCase"
    { base := some "SnakeCase", marksPrivate := some false }).insert "Mine"
    { base := some "CamelCase", getter := some "    get\x7b\x7b name \x7d\x7d" }

/-- Settings with two templates that are refused, the first of them after one that is not. -/
def faultySettings : Settings where
  templates := (((∅ : NameMap UserTemplate).insert "b" { base := some "CamelCase" }).insert "c"
    { style := some .snake, setter := some "\x7b\x7bnope\x7d\x7d" }).insert "é"
    { base := some "c" }

theorem layeredSettings_follow_precedence :
    (∃ c, layeredSettings.catalogue = .ok c ∧
      c.find "CamelCase" = .ok
        (⟨"CamelCase", .snake, Standard.snakeCase.getter, Standard.snakeCase.setter, false⟩ :
          Template).tabbed ∧
      c.find "Mine" = .ok
        ⟨"Mine", .camel, "\tget\x7b\x7b name \x7d\x7d",
          Body.tabbed Standard.camelCase.setter, true⟩) ∧
    faultySettings.FirstRefusal (.incomplete "c" "getter") := by
  constructor
  · have hok : layeredSettings.catalogue.isOk := by decide
    cases hc : layeredSettings.catalogue with
    | error e =>
      rw [hc] at hok
      cases hok
    | ok c =>
      obtain ⟨hmeans, -⟩ := (catalogue_follows_precedence layeredSettings).1 c hc
      refine ⟨c, rfl, (hmeans _ _).mpr ?_, (hmeans _ _).mpr ?_⟩
      · exact .own _ (some .snakeCase) _ rfl ⟨rfl, rfl, rfl, rfl, rfl, rfl⟩
      · exact .own _ (some .camelCase) ⟨"Mine", .camel, "    get\x7b\x7b name \x7d\x7d",
          Standard.camelCase.setter, true⟩ rfl ⟨rfl, rfl, rfl, rfl, rfl, rfl⟩
  · exact ((catalogue_follows_precedence faultySettings).2.2 _).mp (by decide)

end Accessors

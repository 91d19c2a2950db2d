import Accessors.Command.Workspace
import Accessors.Proofs.BatchOutcome
import Accessors.Proofs.StandardCode
import Accessors.Proofs.TemplatePrecedence

/-!
# Settings that are accepted can be used

Settings are accepted once their templates are found valid, before these are indented. All
templates of the catalogue are valid in the form in which they are used, so no source can make a
request fail whose template the catalogue holds.
-/

namespace Accessors

namespace Catalogue

def AllValid (c : Catalogue) : Prop :=
  ∀ e ∈ c.entries, e.2.validate = .ok ()

theorem allValid_empty : AllValid ∅ := by
  intro e he
  cases he

theorem AllValid.add {c : Catalogue} {t : Template} (hc : c.AllValid)
    (ht : t.validate = .ok ()) : AllValid (c.add t) := by
  intro e he
  rcases NameMap.mem_insertEntry he with rfl | he
  · exact ht
  · exact hc e he

theorem AllValid.addAll {c : Catalogue} {ts : List Template} (hc : c.AllValid)
    (hts : ∀ t ∈ ts, t.validate = .ok ()) : AllValid (c.addAll ts) := by
  induction ts generalizing c with
  | nil => exact hc
  | cons t ts ih =>
    obtain ⟨ht, hts⟩ := List.forall_mem_cons.mp hts
    exact ih (hc.add ht) hts

theorem allValid_standard (tabs : Bool) : AllValid (standard tabs) := by
  apply allValid_empty.addAll
  intro t ht
  obtain ⟨s, -, rfl⟩ := List.mem_map.mp ht
  exact Template.validate_indented tabs s.validate_template

end Catalogue

namespace Settings

theorem validate_of_userTemplate {tabs : Bool} {name : Text} {u : UserTemplate} {t : Template}
    (h : userTemplate tabs name u = .ok t) : t.validate = .ok () := by
  obtain ⟨b, -, hv, rfl⟩ := userTemplate_eq_ok_iff.mp h
  exact Template.validate_indented tabs hv

/-- One user template after the other, the catalogue stays valid. -/
theorem allValid_addUsers {tabs : Bool} {c d : Catalogue} {us : List (Text × UserTemplate)}
    (hc : c.AllValid) (h : addUsers tabs c us = .ok d) : d.AllValid := by
  induction us generalizing c with
  | nil =>
    obtain rfl : c = d := by simpa [addUsers] using h
    exact hc
  | cons e us ih =>
    obtain ⟨name, u⟩ := e
    simp only [addUsers, bind, bind_eq_ok_iff] at h
    obtain ⟨t, ht, h⟩ := h
    exact ih (hc.add (validate_of_userTemplate ht)) h

theorem allValid_catalogue {s : Settings} {c : Catalogue} (h : s.catalogue = .ok c) :
    c.AllValid :=
  allValid_addUsers (Catalogue.allValid_standard s.useTabs) h

theorem validate_of_parse {t : Text} {s : Settings} (h : parse t = .ok s) :
    s.validate = .ok () := by
  rw [parse] at h
  split at h
  · cases h
  · next r hr =>
    cases hv : r.validate with
    | error e =>
      rw [hv] at h
      cases h
    | ok w =>
      rw [hv] at h
      obtain rfl := Except.ok.inj h
      exact hv

/-- Accepted settings have a catalogue, and it holds the active template. -/
theorem exists_catalogue_of_validate {s : Settings} (h : s.validate = .ok ()) :
    ∃ c, s.catalogue = .ok c ∧ s.template ∈ c.names := by
  simp only [validate, bind, bind_eq_ok_iff, mapError_eq_ok_iff] at h
  obtain ⟨c, hc, t, ht, -⟩ := h
  exact ⟨c, hc, NameMap.mem_names_iff.mpr ⟨t, Catalogue.find_eq_ok_iff.mp ht⟩⟩

end Settings

namespace Generator

/-- Requests with these options succeed on every source. -/
def Serves (c : Catalogue) (options : Options) : Prop :=
  ∃ g, resolve c options = .ok g ∧
    ∀ source kind selection, ∃ out, g.generate source kind selection = .ok out

theorem serves_of_mem_names {c : Catalogue} {options : Options} (hc : c.AllValid)
    (h : options.template ∈ c.names) : Serves c options := by
  obtain ⟨t, ht⟩ := NameMap.mem_names_iff.mp h
  have hv : t.validate = .ok () := hc _ (NameMap.mem_entries_of_find? ht)
  refine ⟨⟨t, options⟩, ?_, fun source kind selection => ?_⟩
  · rw [resolve, Catalogue.find_eq_ok_iff.mpr ht]
    rfl
  · exact ⟨_, generate_eq_ok hv source kind selection⟩

end Generator

/-- Once settings are read and accepted, generation succeeds on every source, with the active
template and with every other template of the catalogue. What is left is a name given on the
command line that no template has. -/
theorem generation_serves_accepted_settings {t : Text} {s : Settings}
    (h : Settings.parse t = .ok s) :
    ∃ c, s.catalogue = .ok c ∧ Generator.Serves c s.toOptions ∧
      ∀ name,
        (name ∈ c.names → Generator.Serves c (Command.runOptions s (some name))) ∧
        (name ∉ c.names →
          Generator.resolve c (Command.runOptions s (some name)) =
            .error (.unknownTemplate name c.names)) := by
  obtain ⟨c, hc, hs⟩ := Settings.exists_catalogue_of_validate (Settings.validate_of_parse h)
  have hvalid := Settings.allValid_catalogue hc
  refine ⟨c, hc, Generator.serves_of_mem_names hvalid hs, fun name => ⟨fun hn => ?_, fun hn => ?_⟩⟩
  · exact Generator.serves_of_mem_names hvalid hn
  · rw [Generator.resolve, show (Command.runOptions s (some name)).template = name from rfl,
      Catalogue.find_eq_error hn]
    rfl

/-- A document whose template has four spaces, a tab to be, inside a hole. -/
def spacedDocument : Text :=
  "template = 'Mine'\n[templates.Mine]\nbase = 'SnakeCase'\ngetter = '\x7b\x7b    name \x7d\x7d'\n"

def spacedSettings : Settings where
  template := "Mine"
  templates := (∅ : NameMap UserTemplate).insert "Mine"
    { base := some "SnakeCase", getter := some "\x7b\x7b    name \x7d\x7d" }

theorem generation_serves_spaced_hole :
    Settings.parse spacedDocument = .ok spacedSettings ∧
      ∃ c, spacedSettings.catalogue = .ok c ∧ Generator.Serves c spacedSettings.toOptions := by
  have h : Settings.parse spacedDocument = .ok spacedSettings := by decide
  obtain ⟨c, hc, hs, -⟩ := generation_serves_accepted_settings h
  exact ⟨h, c, hc, hs⟩

end Accessors

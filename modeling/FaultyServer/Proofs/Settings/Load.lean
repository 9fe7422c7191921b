import FaultyServer.Proofs.FileTree.Resolution
import FaultyServer.Proofs.Settings.Faults
import FaultyServer.Settings.Load

/-!
# Loading is decoding what is in the file

A configuration file is as good as its text: it gives the settings that its text gives, whatever
path has led to it. Otherwise it is reported what was to be done when something was wrong, and what
was wrong. `Settings.Reports` lists what can be reported, stage by stage. The one file of which
nothing is reported is the one that crashes the program (`Settings.load_reported_unless_carry`).
-/

namespace FaultyServer

open Yaml (Document)

/-- A path leads to a file, and this text is what its bytes encode. -/
def FileTree.Holds (tree : FileTree) (path : String) (canonical : CanonicalPath) (text : String) :
    Prop :=
  tree.LeadsTo path canonical ∧ tree.entry? canonical = some (.file (FileTree.encode text))

/-- The fault ends the program and is not reported. -/
def LoadFault.IsCrash (fault : LoadFault) : Prop := ∃ absolute, fault = .decoding absolute .carry

namespace Settings

/-- What is reported of a path, and for which fault: the stage at which something is wrong, with the
path as it was given if it leads nowhere and the canonical path of the file otherwise, and at the end
what is wrong. For what breaks the syntax of a text its reader has words of its own, which come last;
here the fault says what they are about. -/
inductive Reports (tree : FileTree) (spelling path : String) : LoadFault → List String → Prop
  | nowhere {fault : FileFault} (misleads : tree.Misleads path fault) :
      Reports tree spelling path (.resolving spelling fault)
        ["failed to resolve absolute config filepath: " ++ Text.quoted spelling, fault.message]
  | unreadable {canonical : CanonicalPath} {fault : FileFault} (leads : tree.LeadsTo path canonical)
      (unreadable : tree.Unreadable canonical fault) :
      Reports tree spelling path (.reading (tree.absolute canonical) fault)
        ["read config yaml file " ++ Text.quoted (tree.absolute canonical), fault.message]
  | noDocument {canonical : CanonicalPath} {text : String} {fault : Yaml.SyntaxFault}
      (holds : tree.Holds path canonical text)
      (noDocument : Document.ofText text.toList = .error fault) :
      Reports tree spelling path (.decoding (tree.absolute canonical) (.syntaxFault fault))
        ["load config from " ++ Text.quoted (tree.absolute canonical), "unmarshal config yaml"]
  | noSettings {canonical : CanonicalPath} {text : String} {doc : Document} {fault : DataFault}
      (holds : tree.Holds path canonical text) (document : Document.ofText text.toList = .ok doc)
      (noSettings : ofDocument doc = .error (.dataFault fault)) :
      Reports tree spelling path (.decoding (tree.absolute canonical) (.dataFault fault))
        ["load config from " ++ Text.quoted (tree.absolute canonical), "unmarshal config yaml",
          fault.message]
  | refusedHost {canonical : CanonicalPath} {text : String} {doc : Document} {cfg : Settings}
      {fault : HostFault} (holds : tree.Holds path canonical text)
      (document : Document.ofText text.toList = .ok doc) (settings : ofDocument doc = .ok cfg)
      (refused : cfg.listenAddress = .error fault) :
      Reports tree spelling path (.decoding (tree.absolute canonical) (.host fault))
        ["load config from " ++ Text.quoted (tree.absolute canonical), fault.message]

variable {tree : FileTree} {spelling spelling' path path' text : String}
  {canonical : CanonicalPath} {doc : Document} {cfg : Settings} {fault : LoadFault}
  {messages : List String}

/-- What a text is decoded as does not depend on the file that it is in. -/
theorem load_of_read (hresolve : tree.resolve path = .ok canonical)
    (hread : tree.readText canonical = .ok text) :
    load tree spelling path =
      (ofYaml text).mapError (LoadFault.decoding (tree.absolute canonical)) := by
  simp only [load, hresolve, hread, Except.mapError_ok, Except.ok_bind]

theorem load_of_holds (h : tree.Holds path canonical text) :
    load tree spelling path =
      (ofYaml text).mapError (LoadFault.decoding (tree.absolute canonical)) :=
  load_of_read (FileTree.resolve_eq_ok_iff.2 h.1) (FileTree.readText_eq_ok_iff.2 h.2)

theorem load_of_misleads {fault : FileFault} (h : tree.Misleads path fault) :
    load tree spelling path = .error (.resolving spelling fault) := by
  simp only [load, FileTree.resolve_eq_error_iff.2 h, Except.mapError_error, Except.error_bind]

theorem load_of_unreadable {fault : FileFault} (hleads : tree.LeadsTo path canonical)
    (h : tree.Unreadable canonical fault) :
    load tree spelling path = .error (.reading (tree.absolute canonical) fault) := by
  have hread := (FileTree.readText_eq_error_iff hleads.isCanonical).2 h
  simp only [load, FileTree.resolve_eq_ok_iff.2 hleads, hread, Except.mapError_ok,
    Except.mapError_error, Except.ok_bind, Except.error_bind]

/-- A path leads nowhere, or to what is no text, or to a text. -/
theorem exists_stage (tree : FileTree) (path : String) :
    (∃ fault, tree.Misleads path fault) ∨
      (∃ canonical fault, tree.LeadsTo path canonical ∧ tree.Unreadable canonical fault) ∨
        ∃ canonical text, tree.Holds path canonical text := by
  cases hresolve : tree.resolve path with
  | error fault => exact .inl ⟨fault, FileTree.resolve_eq_error_iff.1 hresolve⟩
  | ok canonical =>
    have hleads := FileTree.resolve_eq_ok_iff.1 hresolve
    cases hread : tree.readText canonical with
    | error fault =>
      have hunreadable := (FileTree.readText_eq_error_iff hleads.isCanonical).1 hread
      exact .inr (.inl ⟨canonical, fault, hleads, hunreadable⟩)
    | ok text =>
      exact .inr (.inr ⟨canonical, text, hleads, FileTree.readText_eq_ok_iff.1 hread⟩)

theorem load_eq_ok_iff : load tree spelling path = .ok cfg ↔
    ∃ canonical text, tree.Holds path canonical text ∧ ofYaml text = .ok cfg := by
  constructor
  · intro h
    rcases exists_stage tree path with ⟨fault, hfault⟩ | ⟨canonical, fault, hleads, hfault⟩ |
      ⟨canonical, text, hholds⟩
    · rw [load_of_misleads hfault] at h
      cases h
    · rw [load_of_unreadable hleads hfault] at h
      cases h
    · rw [load_of_holds hholds, Except.mapError_eq_ok] at h
      exact ⟨canonical, text, hholds, h⟩
  · rintro ⟨canonical, text, hholds, hcfg⟩
    rw [load_of_holds hholds, hcfg, Except.mapError_ok]

/-- What is wrong with a text is what is wrong with the file. -/
theorem load_of_error {fault : SettingsFault} (hholds : tree.Holds path canonical text)
    (h : ofYaml text = .error fault) :
    load tree spelling path = .error (.decoding (tree.absolute canonical) fault) := by
  rw [load_of_holds hholds, h, Except.mapError_error]

theorem ofYaml_of_ofText_error {fault : Yaml.SyntaxFault}
    (h : Document.ofText text.toList = .error fault) :
    ofYaml text = .error (.syntaxFault fault) := by
  simp only [ofYaml, decode, h, Except.error_bind]

theorem ofYaml_of_ofDocument_error {fault : SettingsFault}
    (hdoc : Document.ofText text.toList = .ok doc) (h : ofDocument doc = .error fault) :
    ofYaml text = .error fault := by
  simp only [ofYaml, decode, hdoc, h, Except.error_bind]

theorem ofYaml_of_refused {fault : HostFault} (hdoc : Document.ofText text.toList = .ok doc)
    (hcfg : ofDocument doc = .ok cfg) (h : cfg.listenAddress = .error fault) :
    ofYaml text = .error (.host fault) := by
  simp only [ofYaml, decode, hdoc, hcfg, h, Except.ok_bind]

/-- What is reported is what has gone wrong, unless it is a crash. -/
theorem reports_of_load (h : load tree spelling path = .error fault) (hcrash : ¬ fault.IsCrash) :
    Reports tree spelling path fault fault.messages := by
  rcases exists_stage tree path with ⟨fault', hfault⟩ | ⟨canonical, fault', hleads, hfault⟩ |
    ⟨canonical, text, hholds⟩
  · obtain rfl := Except.error.inj (h.symm.trans (load_of_misleads hfault))
    exact .nowhere hfault
  · obtain rfl := Except.error.inj (h.symm.trans (load_of_unreadable hleads hfault))
    exact .unreadable hleads hfault
  · rw [load_of_holds hholds] at h
    obtain ⟨fault', hfault, rfl⟩ := Except.mapError_eq_error.1 h
    have hblames := blames_of_ofYaml hfault
    cases fault' with
    | syntaxFault f => exact .noDocument hholds hblames
    | dataFault f =>
      obtain ⟨-, doc, hdoc, hdata⟩ := hblames
      exact .noSettings hholds hdoc hdata
    | host f =>
      obtain ⟨doc, cfg, hdoc, hcfg, haddress⟩ := hblames
      exact .refusedHost hholds hdoc hcfg haddress
    | carry => exact absurd ⟨_, rfl⟩ hcrash

/-- Whatever can be reported is. -/
theorem load_of_reports (h : Reports tree spelling path fault messages) :
    load tree spelling path = .error fault ∧ ¬ fault.IsCrash ∧ fault.messages = messages := by
  rcases h with hfault | ⟨hleads, hfault⟩ | ⟨hholds, hfault⟩ | ⟨hholds, hdoc, hfault⟩ |
    ⟨hholds, hdoc, hcfg, hfault⟩
  · exact ⟨load_of_misleads hfault, nofun, rfl⟩
  · exact ⟨load_of_unreadable hleads hfault, nofun, rfl⟩
  · exact ⟨load_of_error hholds (ofYaml_of_ofText_error hfault), nofun, rfl⟩
  · exact ⟨load_of_error hholds (ofYaml_of_ofDocument_error hdoc hfault), nofun, rfl⟩
  · exact ⟨load_of_error hholds (ofYaml_of_refused hdoc hcfg hfault), nofun, rfl⟩

theorem crash_iff : (∃ fault, load tree spelling path = .error fault ∧ fault.IsCrash) ↔
    ∃ canonical text doc, tree.Holds path canonical text ∧
      Document.ofText text.toList = .ok doc ∧ doc.Overflows := by
  constructor
  · rintro ⟨_, h, absolute, rfl⟩
    rcases exists_stage tree path with ⟨fault, hfault⟩ | ⟨canonical, fault, hleads, hfault⟩ |
      ⟨canonical, text, hholds⟩
    · cases h.symm.trans (load_of_misleads hfault)
    · cases h.symm.trans (load_of_unreadable hleads hfault)
    · rw [load_of_holds hholds] at h
      obtain ⟨fault, hfault, hdecoding⟩ := Except.mapError_eq_error.1 h
      cases hdecoding
      obtain ⟨doc, hdoc, hoverflows⟩ := ofYaml_eq_carry.1 hfault
      exact ⟨canonical, text, doc, hholds, hdoc, hoverflows⟩
  · rintro ⟨canonical, text, doc, hholds, hdoc, hoverflows⟩
    exact ⟨_, load_of_error hholds (ofYaml_eq_carry.2 ⟨doc, hdoc, hoverflows⟩), _, rfl⟩

/-- Two paths to one file are loaded alike. -/
theorem load_congr (h : tree.LeadsTo path canonical) (h' : tree.LeadsTo path' canonical) :
    load tree spelling path = load tree spelling' path' := by
  simp only [load, FileTree.resolve_eq_ok_iff.2 h, FileTree.resolve_eq_ok_iff.2 h',
    Except.mapError_ok, Except.ok_bind]

/-- A directory with a file that has this text, and a link to the file through another link. -/
def linkedTo (text : String) : FileTree :=
  ⟨"/d", [(["a.yaml"], .file text.toUTF8.toList), (["l"], .link "/d/k"), (["k"], .link "a.yaml")]⟩

/-- A list that does not end breaks the syntax of a text, and the fault says so. -/
example : load (linkedTo "server: [") "l" "l" =
    .error (.decoding "/d/a.yaml" (.syntaxFault .unexpectedToken)) := by
  decide +kernel

end Settings

end FaultyServer

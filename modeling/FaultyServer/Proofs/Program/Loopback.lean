import FaultyServer.Program
import FaultyServer.Proofs.Except
import FaultyServer.Proofs.Network.Servers

/-!
# Loopback only

Nobody but the machine itself can reach a server. A host becomes an address in one place,
`Settings.listenAddress`, which has none for the host of another machine, and a server is bound to
no address that does not come from there.

* `Settings.Accepted`: settings with an address to listen on. What is read from a text or a file is
  accepted, and stays so with any other port and mode.
* `Network.start_cases`: all that the start of an application can do, whatever its settings;
* `Program.launch_cases`: all that the start of the program can do, whatever its command line. The
  host of its settings is never refused when the server starts: it has been before, or not at all.
-/

namespace FaultyServer

open Address (Ip IPv4 IPv6 Socket)

namespace Address.Ip

/-- The addresses of the machine itself: `127.0.0.0/8` and `::1`. -/
def IsLocal : Ip → Prop
  | v4 a => a.first = 127
  | v6 a => a = .loopback

theorem isLoopback_iff {ip : Ip} : ip.isLoopback = true ↔ ip.IsLocal := by
  rcases ip with a | ⟨groups, hlength⟩
  · exact beq_iff_eq
  · simp [isLoopback, IsLocal, IPv6.loopback]

/-- The address of a host is local. -/
theorem ofHost_isLocal {host : String} {ip : Ip} (h : ofHost host = .ok ip) : ip.IsLocal := by
  rw [ofHost] at h
  split at h
  · obtain rfl := Except.ok.inj h
    rfl
  · split at h
    · cases h
    · split at h
      · next hloopback =>
        obtain rfl := Except.ok.inj h
        exact isLoopback_iff.1 hloopback
      · cases h

end Address.Ip

namespace Settings

variable {s : Settings} {address : Socket}

theorem listenAddress_eq_ok :
    s.listenAddress = .ok address ↔
      Ip.ofHost s.listen.host = .ok address.ip ∧ s.listen.port = address.port := by
  rw [listenAddress, Except.bind_eq_ok]
  constructor
  · rintro ⟨ip, hip, haddress⟩
    obtain rfl := Except.ok.inj haddress
    exact ⟨hip, rfl⟩
  · rintro ⟨hip, hport⟩
    exact ⟨address.ip, hip, hport ▸ rfl⟩

/-- Another port leaves the IP address as it is. -/
theorem listenAddress_withPort (h : s.listenAddress = .ok address) (port : UInt16) :
    (s.withPort port).listenAddress = .ok ⟨address.ip, port⟩ :=
  listenAddress_eq_ok.2 ⟨(listenAddress_eq_ok.1 h).1, rfl⟩

/-- There is an address to listen on, which is local and has the port of the settings. -/
def Accepted (s : Settings) : Prop :=
  ∃ ip : Ip, ip.IsLocal ∧ s.listenAddress = .ok ⟨ip, s.listen.port⟩

/-- Whatever address there is to listen on is local. -/
theorem accepted_of_ok (h : s.listenAddress = .ok address) : s.Accepted := by
  obtain ⟨hip, hport⟩ := listenAddress_eq_ok.1 h
  exact ⟨address.ip, Ip.ofHost_isLocal hip, h.trans (hport ▸ rfl)⟩

/-- Neither the port nor the mode decides whether settings are accepted. -/
theorem Accepted.override (h : s.Accepted) (port : UInt16) (mode : Mode) :
    (s.withPort port).Accepted ∧ (s.withMode mode).Accepted := by
  obtain ⟨ip, _, haddress⟩ := h
  exact ⟨accepted_of_ok (listenAddress_withPort haddress port), accepted_of_ok haddress⟩

theorem accepted_default : default.Accepted :=
  accepted_of_ok (show default.listenAddress = .ok ⟨.localhost, 12345⟩ by decide +kernel)

/-- What is read from a text is accepted. -/
theorem ofYaml_accepted {text : String} (h : ofYaml text = .ok s) : s.Accepted := by
  obtain ⟨settings, _, hcheck⟩ := Except.bind_eq_ok.1 h
  split at hcheck
  · cases hcheck
  · next haddress =>
    obtain rfl := Except.ok.inj hcheck
    exact accepted_of_ok haddress

/-- What is read from a file is accepted. -/
theorem load_accepted {tree : FileTree} {spelling path : String}
    (h : load tree spelling path = .ok s) : s.Accepted := by
  obtain ⟨_, _, hread⟩ := Except.bind_eq_ok.1 h
  obtain ⟨_, _, hdecode⟩ := Except.bind_eq_ok.1 hread
  exact ofYaml_accepted (Except.mapError_eq_ok.1 hdecode)

end Settings

namespace Arguments

/-- Settings with the port of a command line, and with its mode if it has one. -/
def override (a : Arguments) (base : Settings) : Settings :=
  match a.mode with
  | some mode => (base.withPort a.port).withMode mode
  | none => base.withPort a.port

theorem settings_eq (a : Arguments) (load : String → Except LoadFault Settings) :
    a.settings load =
      (match a.file with
        | some path => (load path).mapError (LaunchFault.file path)
        | none => .ok .default) >>= fun base =>
      match (a.override base).listenAddress with
      | .ok _ => .ok (a.override base)
      | .error fault => .error (.server (.host fault)) := by
  rcases a with ⟨port, _ | path, _ | mode⟩ <;> rfl

/-- What a command line overrides does not decide whether settings are accepted. -/
theorem override_accepted (a : Arguments) {base : Settings} (h : base.Accepted) :
    (a.override base).Accepted ∧ (a.override base).listen.port = a.port := by
  rw [override]
  split
  · exact ⟨((h.override a.port .hangOnly).1.override a.port _).2, rfl⟩
  · exact ⟨(h.override a.port .hangOnly).1, rfl⟩

/-- The settings for a command line are accepted, or its file cannot be loaded: that their host is
looked at once more never refuses it. -/
theorem settings_cases (a : Arguments) (load : String → Except LoadFault Settings)
    (hload : ∀ path s, load path = .ok s → s.Accepted) :
    (∃ s, a.settings load = .ok s ∧ s.Accepted ∧ s.listen.port = a.port) ∨
      ∃ path fault, a.file = some path ∧ load path = .error fault ∧
        a.settings load = .error (.file path fault) := by
  -- What comes after the file has been read.
  have haccepted : ∀ base : Settings, base.Accepted →
      ∃ s, (match (a.override base).listenAddress with
        | .ok _ => .ok (a.override base)
        | .error fault => .error (LaunchFault.server (.host fault))) = Except.ok s ∧
        s.Accepted ∧ s.listen.port = a.port := by
    intro base hbase
    obtain ⟨haccepted, hport⟩ := a.override_accepted hbase
    obtain ⟨ip, _, haddress⟩ := haccepted
    exact ⟨a.override base, by rw [haddress], a.override_accepted hbase⟩
  rcases hfile : a.file with _ | path
  · rw [settings_eq, hfile]
    exact .inl (haccepted _ Settings.accepted_default)
  · rcases hbase : load path with fault | base
    · refine .inr ⟨path, fault, rfl, hbase, ?_⟩
      rw [settings_eq, hfile]
      simp only [hbase, Except.mapError_error, Except.error_bind]
    · refine .inl ?_
      rw [settings_eq, hfile]
      simp only [hbase, Except.mapError_ok, Except.ok_bind]
      exact haccepted base (hload path base hbase)

end Arguments

/-! ## Starting a server -/

namespace Network

variable {n : Network}

/-- Binding keeps the IP address, and the port unless it is left to the system. -/
theorem bind_ip {address bound : Socket} (h : n.bind address = .ok bound) :
    bound.ip = address.ip ∧ (address.port ≠ 0 → bound = address) := by
  rcases bind_cases h with ⟨hport, port, _, _, rfl⟩ | ⟨_, _, rfl⟩
  · exact ⟨rfl, fun hne => absurd hport hne⟩
  · exact ⟨rfl, fun _ => rfl⟩

/-- All that the start of an application can do, whatever its settings: it refuses their host before
anything else, or it binds the address they give, and no other one. -/
theorem start_cases (n : Network) (settings : Settings) (token : Nat) :
    (∃ fault, settings.listenAddress = .error fault ∧
      n.start settings token = .error (.host fault)) ∨
    ∃ address, settings.listenAddress = .ok address ∧ address.ip.IsLocal ∧
      address.port = settings.listen.port ∧
      ((∃ fault, n.start settings token = .error (.bind address fault)) ∨
        ∃ m server, n.start settings token = .ok m ∧ m.servers = n.servers ++ [server] ∧
          server.address.ip = address.ip ∧ (address.port ≠ 0 → server.address = address)) := by
  rcases haddress : settings.listenAddress with fault | address
  · refine .inl ⟨fault, rfl, ?_⟩
    simp only [start, haddress, Except.mapError_error, Except.error_bind]
  · obtain ⟨hip, hport⟩ := Settings.listenAddress_eq_ok.1 haddress
    refine .inr ⟨address, rfl, Ip.ofHost_isLocal hip, hport.symm, ?_⟩
    rcases hbound : n.bind address with fault | bound
    · refine .inl ⟨fault, ?_⟩
      simp only [start, haddress, hbound, Except.mapError_ok, Except.mapError_error,
        Except.ok_bind, Except.error_bind]
    · refine .inr ⟨(n.log [.appStarted bound settings.mode]).listen settings.listen.name
        (.ofSettings settings) (some settings.mode) bound token, _, ?_, rfl, bind_ip hbound⟩
      simp only [start, haddress, hbound, Except.mapError_ok, Except.ok_bind]
      rfl

/-- In every session every server is bound to a local address, whatever the settings with which
servers are started. -/
theorem run_isLocal (h : ∀ s ∈ n.servers, s.address.ip.IsLocal) (actions : List Action) :
    ∀ s ∈ (n.run actions).1.servers, s.address.ip.IsLocal := by
  refine run_forall (p := fun _ address => address.ip.IsLocal) ?_ h actions
  intro _ settings address bound haddress hbound
  rw [(bind_ip hbound).1]
  exact Ip.ofHost_isLocal (Settings.listenAddress_eq_ok.1 haddress).1

end Network

namespace Program

/-- All that the start of a server can do with settings that are prepared. -/
theorem serve_cases (p : Prepared) (network : Network) {address : Socket}
    (h : p.settings.listenAddress = .ok address) :
    (∃ fault, serve p network = .error (.failed p.warnings (.server (.bind address fault)))) ∨
      ∃ program server, serve p network = .ok program ∧ program.settings = p.settings ∧
        program.network.servers = network.servers ++ [server] ∧
        server.address.ip = address.ip ∧ (address.port ≠ 0 → server.address = address) := by
  rcases network.start_cases p.settings network.freshToken with
    ⟨fault, haddress, _⟩ | ⟨_, haddress, _, _, hstart⟩
  · rw [h] at haddress
    cases haddress
  · obtain rfl := Except.ok.inj (h.symm.trans haddress)
    rcases hstart with ⟨fault, hstart⟩ | ⟨m, server, hstart, hserver⟩
    · refine .inl ⟨fault, ?_⟩
      simp only [serve, hstart, Except.mapError_error, Except.error_bind]
    · refine .inr ⟨⟨p, m, network.servers.length, network.freshToken, trackServer⟩, server, ?_, rfl,
        hserver⟩
      simp only [serve, hstart, Except.mapError_ok, Except.ok_bind]
      rfl

/-- All that the start of the program can do, whatever its command line and its files: it refuses
the command line, cannot load its file, or starts a server on the address that the settings give.
Once the settings are there, their host is not refused any more. -/
theorem launch_cases (words : List String) (machine : Machine) :
    (∃ refusal, CommandLine.read words = .error refusal ∧
      launch words machine = .error (.refused refusal)) ∨
    ∃ arguments, CommandLine.read words = .ok arguments ∧
      ((∃ path fault, arguments.file = some path ∧
        launch words machine = .error (.failed [] (.file path fault))) ∨
      ∃ settings address, settings.listenAddress = .ok address ∧ address.ip.IsLocal ∧
        address.port = arguments.port ∧
        ((∃ warnings fault,
          launch words machine = .error (.failed warnings (.server (.bind address fault)))) ∨
        ∃ program server, launch words machine = .ok program ∧ program.settings = settings ∧
          program.network.servers = machine.network.servers ++ [server] ∧
          server.address.ip = address.ip ∧ (address.port ≠ 0 → server.address = address))) := by
  rcases hread : CommandLine.read words with refusal | arguments
  · refine .inl ⟨refusal, rfl, ?_⟩
    simp only [launch, prepare, hread, Except.mapError_error, Except.error_bind]
  refine .inr ⟨arguments, rfl, ?_⟩
  rcases arguments.settings_cases (fun path => Settings.load machine.files path path)
      (fun _ _ => Settings.load_accepted) with
    ⟨settings, hsettings, ⟨ip, hlocal, haddress⟩, hport⟩ | ⟨path, fault, hfile, _, hsettings⟩
  · obtain ⟨filter, hfilter⟩ : ∃ filter, filterFor machine.filter settings = filter := ⟨_, rfl⟩
    have hlaunch : launch words machine =
        serve ⟨settings, filter.1, filter.2⟩ machine.network := by
      simp only [launch, prepare, hread, hsettings, hfilter, Except.mapError_ok, Except.ok_bind]
      rfl
    rw [hlaunch]
    refine .inr ⟨settings, _, haddress, hlocal, hport, ?_⟩
    rcases serve_cases ⟨settings, filter.1, filter.2⟩ machine.network haddress with
      ⟨fault, hserve⟩ | hserve
    · exact .inl ⟨_, fault, hserve⟩
    · exact .inr hserve
  · refine .inl ⟨path, fault, hfile, ?_⟩
    simp only [launch, prepare, hread, hsettings, Except.mapError_ok, Except.mapError_error,
      Except.ok_bind, Except.error_bind]

end Program

/-- No server is ever bound to an address that others can reach. Settings that are read from a text
or a file are accepted, and so are the default ones; another port and another mode change nothing
about it. An application starts on the address of its settings, whatever they are, or not at all,
and so does the program. -/
theorem loopback_only :
    (∀ text s, Settings.ofYaml text = .ok s → s.Accepted) ∧
    (∀ tree spelling path s, Settings.load tree spelling path = .ok s → s.Accepted) ∧
    Settings.default.Accepted ∧
    (∀ (s : Settings) address, s.listenAddress = .ok address → ∀ port mode,
      (s.withPort port).listenAddress = .ok ⟨address.ip, port⟩ ∧
        (s.withMode mode).listenAddress = .ok address) ∧
    (∀ n settings token,
      match Network.start n settings token with
      | .error (.host fault) => settings.listenAddress = .error fault
      | .error (.bind address _) => settings.listenAddress = .ok address ∧ address.ip.IsLocal
      | .ok m => ∃ address server, settings.listenAddress = .ok address ∧ address.ip.IsLocal ∧
        m.servers = n.servers ++ [server] ∧ server.address.ip = address.ip ∧
        (address.port ≠ 0 → server.address = address)) ∧
    (∀ link taken actions, ∀ s ∈ ((Network.fresh link taken).run actions).1.servers,
      s.address.ip.IsLocal) ∧
    ∀ words machine,
      match Program.launch words machine with
      | .error (.refused _) | .error (.failed _ (.file _ _)) => True
      | .error (.failed _ (.server (.host _))) => False
      | .error (.failed _ (.server (.bind address _))) => address.ip.IsLocal
      | .ok program => ∃ address server, program.settings.listenAddress = .ok address ∧
        address.ip.IsLocal ∧ program.network.servers = machine.network.servers ++ [server] ∧
        server.address.ip = address.ip ∧ (address.port ≠ 0 → server.address = address) := by
  refine ⟨fun _ _ => Settings.ofYaml_accepted, fun _ _ _ _ => Settings.load_accepted,
    Settings.accepted_default, fun s address h port mode =>
      ⟨Settings.listenAddress_withPort h port, h⟩, fun n settings token => ?_,
    fun link taken actions =>
      Network.run_isLocal (fun _ hs => absurd hs List.not_mem_nil) actions,
    fun words machine => ?_⟩
  · rcases n.start_cases settings token with ⟨fault, haddress, hstart⟩ |
      ⟨address, haddress, hlocal, _, ⟨fault, hstart⟩ | ⟨m, server, hstart, hserver⟩⟩
    · rw [hstart]
      exact haddress
    · rw [hstart]
      exact ⟨haddress, hlocal⟩
    · rw [hstart]
      exact ⟨address, server, haddress, hlocal, hserver⟩
  · rcases Program.launch_cases words machine with ⟨refusal, _, hlaunch⟩ |
      ⟨arguments, _, ⟨path, fault, _, hlaunch⟩ | ⟨settings, address, haddress, hlocal, _,
        ⟨warnings, fault, hlaunch⟩ | ⟨program, server, hlaunch, rfl, hserver⟩⟩⟩
    · rw [hlaunch]
      trivial
    · rw [hlaunch]
      trivial
    · rw [hlaunch]
      exact hlocal
    · rw [hlaunch]
      exact ⟨address, server, haddress, hlocal, hserver⟩

/-- The IPv6 address of the machine, from a text to another port. -/
theorem loopback_only_v6 :
    ∃ s, Settings.ofYaml "server:\n  api:\n    host: ::1\n" = .ok s ∧ s.Accepted ∧
      (s.withPort 80).listenAddress = .ok ⟨.v6 .loopback, 80⟩ := by
  have hread : (Settings.ofYaml "server:\n  api:\n    host: ::1\n").toOption.map
      Settings.listenAddress = some (.ok ⟨.v6 .loopback, 12345⟩) := by decide +kernel
  obtain ⟨s, hs, haddress⟩ := Option.map_eq_some_iff.1 hread
  rcases htext : Settings.ofYaml "server:\n  api:\n    host: ::1\n" with fault | s'
  · rw [htext] at hs
    cases hs
  · rw [htext] at hs
    obtain rfl := Option.some.inj hs
    exact ⟨s', rfl, loopback_only.1 _ _ htext, (loopback_only.2.2.2.1 s' _ haddress 80 .hangOnly).1⟩

end FaultyServer

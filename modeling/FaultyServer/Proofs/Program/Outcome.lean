import FaultyServer.Proofs.Program.Loopback
import FaultyServer.Proofs.Shutdown.Outcome

/-!
# How the program ends

The command line, the files and the network decide in this order how the program ends
(`Program.outcome`). A command line that is refused ends it before anything else is looked at, with
exit code 2 unless it has asked for help or the version (which command lines these are says
`CommandLine.read_eq_iff`). A file that gives no settings ends it with exit code 1 whatever the
network is, and so does an address that cannot be bound. Otherwise the program serves, and ends with
exit code 0 after a signal: the only task that its shutdown waits for ends with the cancellation, so
that requests that hang do not matter.

* `Program.launch_refused`, `launch_unloaded`, `launch_eq`: what each of the three decides;
* `Program.shutDown_later`: every signal completes the shutdown.
-/

namespace FaultyServer

open Address (Socket)

namespace Arguments

/-- The settings that a command line overrides: those of its file, or else the default ones. -/
def base (a : Arguments) (files : FileTree) : Except LaunchFault Settings :=
  match a.file with
  | some path => (Settings.load files path path).mapError (LaunchFault.file path)
  | none => .ok .default

variable {a : Arguments} {files : FileTree} {base : Settings} {fault : LaunchFault}

theorem base_accepted (h : a.base files = .ok base) : base.Accepted := by
  rw [Arguments.base] at h
  split at h
  · exact Settings.load_accepted (Except.mapError_eq_ok.1 h)
  · obtain rfl := Except.ok.inj h
    exact Settings.accepted_default

/-- A command line overrides the port, and the mode if it has one. -/
theorem override_eq (a : Arguments) (base : Settings) :
    (a.override base).listen.port = a.port ∧ (a.override base).mode = a.mode.getD base.mode := by
  rcases a with ⟨port, file, _ | mode⟩ <;> exact ⟨rfl, rfl⟩

theorem settings_eq_base (a : Arguments) (files : FileTree) :
    a.settings (fun path => Settings.load files path path) = a.base files >>= fun base =>
      match (a.override base).listenAddress with
      | .ok _ => .ok (a.override base)
      | .error fault => .error (.server (.host fault)) := by
  rcases a with ⟨port, _ | path, _ | mode⟩ <;> rfl

theorem settings_of_base (h : a.base files = .ok base) :
    a.settings (fun path => Settings.load files path path) = .ok (a.override base) := by
  obtain ⟨⟨ip, _, haddress⟩, _⟩ := a.override_accepted (base_accepted h)
  rw [settings_eq_base, h, Except.ok_bind, haddress]

end Arguments

namespace Network

variable {n m : Network}

/-- Binding keeps the port, or chooses one of those that the system has for it. -/
theorem bind_port {address bound : Socket} (h : n.bind address = .ok bound) :
    if address.port = 0 then bound.port ∈ ephemeralPorts else bound.port = address.port := by
  rcases bind_cases h with ⟨hport, port, hmem, _, rfl⟩ | ⟨hport, _, rfl⟩
  · rwa [if_pos hport]
  · rw [if_neg hport]

/-- The addresses of the servers, by their numbers. -/
def addresses (n : Network) : List Socket := n.servers.map (·.address)

theorem Alike.addresses (h : Alike n m) : m.addresses = n.addresses := by
  have hservers := congrArg (List.map (·.address)) h.servers
  rw [List.map_map, List.map_map] at hservers
  exact hservers

theorem cancel_addresses (n : Network) (token : Nat) :
    (n.cancel token).addresses = n.addresses := by
  rw [cancel]
  split
  · rfl
  · simp only [addresses, log, List.map_map]
    refine List.map_congr_left fun s _ => ?_
    simp only [Function.comp_apply]
    split <;> rfl

/-- No server ever gets another address. -/
theorem make_addresses (n : Network) (action : Action) :
    n.addresses <+: (n.make action).1.addresses := by
  rcases n.make_cases action with ⟨_, h⟩ | ⟨_, settings, _, bound, token, _, _, h⟩ | ⟨token, _, h⟩
  · exact h.addresses ▸ List.prefix_refl _
  · rw [h.addresses]
    exact ⟨[bound], by simp [addresses, listen, log]⟩
  · have heq := h.addresses.trans (n.cancel_addresses token)
    exact heq ▸ List.prefix_refl _

theorem run_addresses (n : Network) (actions : List Action) :
    n.addresses <+: (n.run actions).1.addresses := by
  induction actions generalizing n with
  | nil => exact List.prefix_refl _
  | cons action rest ih =>
    rw [run_cons]
    exact (n.make_addresses action).trans (ih _)

end Network

namespace Program

variable {words : List String} {machine : Machine} {arguments : Arguments} {refusal : Refusal}
  {base : Settings} {fault : LaunchFault} {address bound : Socket} {network : Network}

/-! ## Starting -/

/-- The program with these settings before its server starts. -/
def prepared (environment : Option String) (s : Settings) : Prepared :=
  ⟨s, (filterFor environment s).1, (filterFor environment s).2⟩

/-- The program once its server is bound to an address. -/
def serving (p : Prepared) (network : Network) (bound : Socket) : Program :=
  ⟨p, (network.log [.appStarted bound p.settings.mode]).listen p.settings.listen.name
    (.ofSettings p.settings) (some p.settings.mode) bound network.freshToken,
    network.servers.length, network.freshToken, trackServer⟩

/-- A command line that is refused halts the program on any machine. -/
theorem launch_refused (h : CommandLine.read words = .error refusal) (machine : Machine) :
    launch words machine = .error (.refused refusal) := by
  simp only [launch, prepare, h, Except.mapError_error, Except.error_bind]

/-- A file that gives no settings halts the program on any network. -/
theorem launch_unloaded (h : CommandLine.read words = .ok arguments)
    (hbase : arguments.base machine.files = .error fault) :
    launch words machine = .error (.failed [] fault) := by
  have hsettings : arguments.settings (fun path => Settings.load machine.files path path) =
      .error fault := by
    rw [Arguments.settings_eq_base, hbase, Except.error_bind]
  simp only [launch, prepare, h, hsettings, Except.mapError_ok, Except.mapError_error,
    Except.ok_bind, Except.error_bind]

/-- Otherwise it starts its server, if the address can be bound. -/
theorem launch_eq (h : CommandLine.read words = .ok arguments)
    (hbase : arguments.base machine.files = .ok base)
    (haddress : (arguments.override base).listenAddress = .ok address) :
    let p := prepared machine.filter (arguments.override base)
    launch words machine =
      match machine.network.bind address with
      | .error fault => .error (.failed p.warnings (.server (.bind address fault)))
      | .ok bound => .ok (serving p machine.network bound) := by
  intro p
  have hlaunch : launch words machine = serve p machine.network := by
    simp only [launch, prepare, h, Arguments.settings_of_base hbase, Except.mapError_ok,
      Except.ok_bind]
    rfl
  have hp : p.settings.listenAddress = .ok address := haddress
  rw [hlaunch, serve, Network.start_eq, hp]
  cases hbind : machine.network.bind address with
  | error fault =>
    simp only [Except.mapError_ok, Except.bind, hbind]
    rfl
  | ok bound =>
    simp only [Except.mapError_ok, Except.bind, hbind]
    rfl

theorem serving_address (p : Prepared) (network : Network) (bound : Socket) :
    (serving p network bound).address? = some bound := by
  simp [address?, serving, Network.listen, Network.log]

/-! ## Ending -/

/-- The program after some actions on its network and some milliseconds of waiting. -/
def later (p : Program) (actions : List Network.Action) (ms : Nat) : Program :=
  { p with
    network := (p.network.run actions).1
    shutdown := { p.shutdown with tasks := p.shutdown.tasks.pass ms }.settle }

/-- The server keeps its address. -/
theorem later_address {p : Program} {bound : Socket} (h : p.address? = some bound)
    (actions : List Network.Action) (ms : Nat) : (p.later actions ms).address? = some bound := by
  have haddress : p.network.addresses[p.server]? = some bound := by
    rwa [Network.addresses, List.getElem?_map]
  obtain ⟨more, hmore⟩ := p.network.run_addresses actions
  change (((p.network.run actions).1.servers[p.server]?).map (·.address)) = _
  rw [← List.getElem?_map]
  change (p.network.run actions).1.addresses[p.server]? = _
  rw [← hmore]
  exact List.getElem?_append_left (List.getElem?_eq_some_iff.1 haddress).1 ▸ haddress

/-- A shutdown that completes is the end of the program, and it logs so. -/
theorem shutDown_of_completed {p : Program} {signal : Signal} {triggered : Shutdown.Session}
    (h : p.shutdown.trigger (some signal) = some triggered)
    (hcompleted : triggered.awaitTasks.1 = .completed) :
    ∃ events, p.shutDown signal = some (.completed, events ++ [.exited]) := by
  -- What has been logged before does not matter to the outcome.
  have hevents : ∀ events, { triggered with events := events }.awaitTasks.1 = .completed :=
    fun _ => hcompleted
  rw [shutDown, h]
  simp only [Option.bind_eq_bind, Option.bind_some, hevents]
  exact ⟨_, rfl⟩

/-- Whatever has happened and whenever it comes, a signal completes the shutdown, and the program
logs that it ends. -/
theorem shutDown_later (p : Prepared) (network : Network) (bound : Socket)
    (actions : List Network.Action) (ms : Nat) (signal : Signal) :
    ∃ events, ((serving p network bound).later actions ms).shutDown signal =
      some (.completed, events ++ [.exited]) := by
  have hrun : (Shutdown.Session.fresh shutdownTimeout).run [.spawn serverTask, .advance ms] =
      some ((serving p network bound).later actions ms).shutdown := rfl
  have hprompt : ∀ sp ∈ ((Shutdown.Session.fresh shutdownTimeout).history ⟨[], []⟩
      [.spawn serverTask, .advance ms]).spawned,
      sp.plan.awaitsCancel = true ∧ sp.plan.sleep = some 0 := by
    intro sp hsp
    have hserver : sp ∈ [Shutdown.Spawned.mk serverTask 0] := hsp
    obtain rfl := List.mem_singleton.1 hserver
    exact ⟨rfl, rfl⟩
  obtain ⟨triggered, htriggered, hcompleted⟩ :=
    Shutdown.Session.completes_of_prompt (by decide) (by decide) hrun hprompt signal 0
  exact shutDown_of_completed htriggered hcompleted

/-! ## Every run -/

/-- What a program does that serves settings which a command line overrides, on an address. -/
structure Serves (arguments : Arguments) (base : Settings) (bound : Socket) (p : Program) :
    Prop where
  settings : p.settings = arguments.override base
  mode : p.settings.mode = arguments.mode.getD base.mode
  /-- The port is that of the command line, or a free one that the system chooses. -/
  port : if arguments.port = 0 then bound.port ∈ Network.ephemeralPorts
    else bound.port = arguments.port
  address : p.address? = some bound
  banner : ∀ portText, p.banner portText =
    "HTTP Server Running on PORT " ++ String.ofList (portText bound.port) ++ ".........."
  /-- Whatever has happened and whenever it comes, a signal completes the shutdown. -/
  completes : ∀ actions ms signal, ∃ events,
    (p.later actions ms).shutDown signal = some (.completed, events ++ [.exited])
  exits : ∀ portText actions ms, (p.later actions ms).endingAfter portText .completed =
    ⟨0, unlines [p.banner portText], unlines p.warnings⟩

theorem banner_eq {p : Program} {bound : Socket} (h : p.address? = some bound)
    (portText : UInt16 → List Char) : p.banner portText =
      "HTTP Server Running on PORT " ++ String.ofList (portText bound.port) ++ ".........." := by
  have hport : (p.address?.map fun a => portText a.port).getD [] = portText bound.port := by
    rw [h]
    rfl
  unfold banner
  dsimp only
  rw [hport]

theorem serving_serves (environment : Option String) (network : Network)
    (haddress : (arguments.override base).listenAddress = .ok address)
    (hbound : network.bind address = .ok bound) :
    (serving (prepared environment (arguments.override base)) network bound).Serves arguments base
      bound where
  settings := rfl
  mode := (arguments.override_eq base).2
  port := by
    have hport : address.port = arguments.port :=
      (Settings.listenAddress_eq_ok.1 haddress).2.symm.trans (arguments.override_eq base).1
    rw [← hport]
    exact Network.bind_port hbound
  address := serving_address _ network bound
  banner := banner_eq (serving_address _ network bound)
  completes := shutDown_later _ network bound
  exits portText actions ms := by
    have haddress := serving_address (prepared environment (arguments.override base)) network bound
    rw [endingAfter, banner_eq (later_address haddress actions ms), banner_eq haddress]
    rfl

/-- How the program ends, whatever its command line, its files and the network are. A command line
that is refused ends it on every machine alike. A file without settings ends it, whatever the
network is, and so does an address that cannot be bound; both are reported, unless the file crashes
the program. Otherwise it serves until a signal comes, and ends well. -/
theorem outcome (words : List String) (machine : Machine) (portText : UInt16 → List Char) :
    match CommandLine.read words with
    | .error .usage =>
      (∀ machine, launch words machine = .error (.refused .usage)) ∧
        (Halt.refused .usage).ending portText = ⟨2, CommandLine.usage ++ "\n", ""⟩
    | .error refusal =>
      (∀ machine, launch words machine = .error (.refused refusal)) ∧
        (Halt.refused refusal).ending portText = ⟨0, refusal.text, ""⟩
    | .ok arguments =>
      match arguments.base machine.files with
      | .error fault =>
        (∀ environment network, launch words ⟨machine.files, environment, network⟩ =
          .error (.failed [] fault)) ∧
          (fault.isCrash = false → (Halt.failed [] fault).ending portText =
            ⟨1, "", unlines ["Error: " ++ ": ".intercalate (fault.messages portText)]⟩)
      | .ok base =>
        ∃ address, (arguments.override base).listenAddress = .ok address ∧
          match machine.network.bind address with
          | .error fault =>
            let warnings := (filterFor machine.filter (arguments.override base)).2
            let fault := LaunchFault.server (.bind address fault)
            launch words machine = .error (.failed warnings fault) ∧
              (Halt.failed warnings fault).ending portText = ⟨1, "",
                unlines (warnings ++ ["Error: " ++ ": ".intercalate (fault.messages portText)])⟩
          | .ok bound =>
            machine.network.isTaken bound = false ∧
              ∃ program, launch words machine = .ok program ∧
                program.Serves arguments base bound := by
  cases hread : CommandLine.read words with
  | error refusal =>
    cases refusal with
    | usage => exact ⟨launch_refused hread, rfl⟩
    | _ => exact ⟨launch_refused hread, rfl⟩
  | ok arguments =>
    dsimp only
    cases hbase : arguments.base machine.files with
    | error fault =>
      refine ⟨fun _ _ => launch_unloaded hread hbase, fun hcrash => ?_⟩
      rw [Halt.ending, hcrash]
      rfl
    | ok base =>
      obtain ⟨⟨ip, _, haddress⟩, _⟩ := arguments.override_accepted (Arguments.base_accepted hbase)
      refine ⟨_, haddress, ?_⟩
      have hlaunch := launch_eq hread hbase haddress
      cases hbind : machine.network.bind ⟨ip, (arguments.override base).listen.port⟩ with
      | error fault =>
        rw [hbind] at hlaunch
        exact ⟨hlaunch, rfl⟩
      | ok bound =>
        rw [hbind] at hlaunch
        exact ⟨(Network.bind_ok hbind).2, _, hlaunch, serving_serves _ _ haddress hbind⟩

end Program

end FaultyServer

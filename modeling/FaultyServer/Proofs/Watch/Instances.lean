import FaultyServer.Proofs.Dispatch.SideBySide
import FaultyServer.Proofs.Watch.SideBySide

/-!
# Instances do not interfere

Servers on one machine share its clock, and nothing else. A session over several of them, each with
its own token and its own address, looks to the clients of one server like the session in which
nothing else happens (`instances_apart`). Requests of all of them may be in flight at once.

Two machines stand side by side, the one with all servers and the one with a single one, and every
move keeps them alike (`Mirrors.move_own`, `Mirrors.move_other`). A port that the system chooses may
differ between them, as it depends on which ports are free.
-/

namespace FaultyServer

open Address (Socket)

namespace Watch

open Network (Action Result)

/-- What is seen of a server when somebody makes a move: what comes of the move, what is logged, and
the server afterwards. -/
structure Report where
  result : Result
  records : List Record
  view : Option View
  deriving DecidableEq

/-- What is seen of the server with a token in a move of some server, with ports written as
`portText` says. -/
def report (portText : UInt16 → List Char) (token : Nat) (w : Watch) (mover : Nat) (move : Move) :
    Report :=
  let (after, result) := w.move mover move
  ⟨result, (after.network.events.drop w.network.events.length).map (Event.toRecord portText),
    after.viewOf token⟩

/-- What is seen of the server with a token in a session over all servers. -/
def reports (portText : UInt16 → List Char) (token : Nat) (w : Watch) :
    List (Nat × Move) → List Report
  | [] => []
  | (mover, move) :: rest =>
    w.report portText token mover move :: (w.move mover move).1.reports portText token rest

/-- Servers that start in a session get tokens and addresses of their own. -/
def Separate (w : Watch) : List (Nat × Move) → Prop
  | [] => True
  | (mover, move) :: rest => w.Apart mover move ∧ (w.move mover move).1.Separate rest

/-- Whether a move of some server concerns the one with a token: it is its own move, or a pause. -/
def Move.concerns (token mover : Nat) : Move → Bool
  | .step (.pass _) => true
  | _ => mover == token

/-- Whether a server starts that leaves the choice of its port to the system. -/
def Move.leavesPort : Move → Prop
  | .start settings => ∃ address, settings.listenAddress = .ok address ∧ address.port = 0
  | _ => False

theorem Move.concerns_iff {token mover : Nat} {move : Move} :
    move.concerns token mover = true ↔ mover = token ∨ ∃ ms, move = .step (.pass ms) := by
  cases move with
  | step s => cases s <;> simp [concerns]
  | _ => simp [concerns]

/-- The labels of two servers, which look the same in the log. -/
structure Twins (portText : UInt16 → List Char) (l l' : Label) : Prop where
  name : l.name = l'.name
  mode : l.mode = l'.mode
  address : Event.addressField portText l.address = Event.addressField portText l'.address

/-- The labels look the same when the servers stop, and when they start. -/
theorem Twins.stopped {portText : UInt16 → List Char} {l l' : Label} (h : Twins portText l l') :
    (Event.serverStopped l.name l.address).toRecord portText =
      (Event.serverStopped l'.name l'.address).toRecord portText := by
  simp only [Event.toRecord, h.name, h.address]

theorem Twins.started {portText : UInt16 → List Char} {l l' : Label} (h : Twins portText l l') :
    (Event.serverStarted l.name l.address).toRecord portText =
      (Event.serverStarted l'.name l'.address).toRecord portText := by
  simp only [Event.toRecord, h.name, h.address]

/-- A machine with several servers, and one on which there is only the server with a token. -/
structure Mirrors (portText : UInt16 → List Char) (token : Nat) (w w' : Watch) : Prop where
  joint : w.Orderly
  own : w'.Orderly
  only : ∀ place ∈ w'.network.places, place.1 = token
  taken : w.network.taken = w'.network.taken
  start : w.start = w'.start
  now : w.network.now = w'.network.now
  isCancelled : w.network.isCancelled token = w'.network.isCancelled token
  hosts : w.number? token = none ∧ w'.number? token = none ∨
    ∃ id id' l l' v, w.Hosts token id l v ∧ w'.Hosts token id' l' v ∧ Twins portText l l'

variable {portText : UInt16 → List Char} {token mover id : Nat} {w w' : Watch} {l : Label}
  {v : View} {settings : Settings} {address : Socket} {move : Move}

theorem Hosts.viewOf (h : w.Hosts token id l v) : w.viewOf token = some v := by
  rw [Watch.viewOf, h.number]
  exact h.view

theorem viewOf_none (h : w.number? token = none) : w.viewOf token = none := by
  rw [viewOf, h]
  rfl

/-- A pause moves the clock, whoever makes it. -/
theorem move_pass (w : Watch) (mover ms : Nat) :
    w.move mover (.step (.pass ms)) = w.make (.pass ms) := by
  rw [move]
  cases w.number? mover <;> rfl

/-! ## Starting -/

/-- Two machines, the second one without servers, bind an address alike. -/
theorem bind_twins
    (hport : address.port = 0 →
      ∀ p ∈ Network.ephemeralPorts, ∀ q ∈ Network.ephemeralPorts, portText p = portText q)
    (hlink : w.network.link = .up) (hlink' : w'.network.link = .up)
    (htaken : w.network.taken = w'.network.taken) (hservers : w'.network.servers = [])
    (hapart : w.Apart token (.start settings)) (haddress : settings.listenAddress = .ok address) :
    (∃ fault, w.network.bind address = .error fault ∧ w'.network.bind address = .error fault) ∨
    ∃ bound bound', w.network.bind address = .ok bound ∧ w'.network.bind address = .ok bound' ∧
      Event.addressField portText bound = Event.addressField portText bound' := by
  have hasked := hapart.2 address haddress
  rw [Network.bind_up hlink, Network.bind_up hlink']
  by_cases hzero : address.port = 0
  · rw [if_pos hzero] at hasked
    rw [if_pos hzero, if_pos hzero]
    obtain ⟨p, hp⟩ := Option.ne_none_iff_exists'.1 hasked
    -- A port that is free beside all servers is free where there are none.
    obtain ⟨hmem, hunused⟩ := Network.isUnused_of_freePort? hp
    obtain ⟨p', hp'⟩ : ∃ p', w'.network.freePort? = some p' :=
      Network.exists_freePort? hmem ⟨fun s hs => by simp [hservers] at hs, htaken ▸ hunused.2⟩
    rw [hp, hp']
    refine .inr ⟨_, _, rfl, rfl, ?_⟩
    have htext := hport hzero p hmem p' (Network.isUnused_of_freePort? hp').1
    simp only [Event.addressField, Address.Socket.charsWithPort, htext]
  · rw [if_neg hzero] at hasked
    rw [if_neg hzero, if_neg hzero]
    have hfree : (w.network.servers.any fun s => s.isListening && s.address == address) = false := by
      refine List.any_eq_false.2 fun s hs hboth => hasked s hs ?_
      exact beq_iff_eq.1 (Bool.and_eq_true_iff.1 hboth).2
    have hsame : w.network.isTaken address = w'.network.isTaken address := by
      rw [Network.isTaken, Network.isTaken, hfree, hservers, htaken]
      rfl
    rw [hsame]
    split
    · exact .inl ⟨_, rfl, rfl⟩
    · exact .inr ⟨_, _, rfl, rfl, rfl⟩

namespace Mirrors

theorem of_fresh (taken : List Socket) :
    Mirrors portText token (.of (.fresh .up taken)) (.of (.fresh .up taken)) where
  joint := .of_fresh taken
  own := .of_fresh taken
  only := nofun
  taken := rfl
  start := rfl
  now := rfl
  isCancelled := rfl
  hosts := .inl ⟨rfl, rfl⟩

theorem elapses {ms : Nat} {v v' : Watch} (h : Mirrors portText token w w') (hv : v.Orderly)
    (hv' : v'.Orderly) (helapses : Elapses ms w v) (helapses' : Elapses ms w' v')
    (honly : ∀ place ∈ v'.network.places, place.1 = token)
    (hcancelled : v.network.isCancelled token = v'.network.isCancelled token)
    (hhosts : v.number? token = none ∧ v'.number? token = none ∨
      ∃ id id' l l' view, v.Hosts token id l view ∧ v'.Hosts token id' l' view ∧
        Twins portText l l') : Mirrors portText token v v' where
  joint := hv
  own := hv'
  only := honly
  taken := helapses.taken.trans (h.taken.trans helapses'.taken.symm)
  start := helapses.start.trans (h.start.trans helapses'.start.symm)
  now := by rw [helapses.now, helapses'.now, h.now]
  isCancelled := hcancelled
  hosts := hhosts

/-- When something happens that is nothing to the server, the machines stay alike. -/
theorem spares {ms : Nat} {v v' : Watch} (h : Mirrors portText token w w') (hv : v.Orderly)
    (hv' : v'.Orderly) (hspares : Spares token ms w v) (hspares' : Spares token ms w' v')
    (hplaces : v'.network.places = w'.network.places) : Mirrors portText token v v' := by
  refine h.elapses hv hv' hspares.toElapses hspares'.toElapses (hplaces ▸ h.only)
    (hspares.isCancelled.trans (h.isCancelled.trans hspares'.isCancelled.symm)) ?_
  rcases h.hosts with ⟨hnone, hnone'⟩ | ⟨id, id', l, l', view, hhosts, hhosts', htwins⟩
  · exact .inl ⟨hspares.absent hnone, hspares'.absent hnone'⟩
  · exact .inr ⟨id, id', l, l', _, hspares.hosts _ _ _ hhosts, hspares'.hosts _ _ _ hhosts', htwins⟩

theorem viewOf (h : Mirrors portText token w w') : w.viewOf token = w'.viewOf token := by
  rcases h.hosts with ⟨hnone, hnone'⟩ | ⟨id, id', l, l', view, hhosts, hhosts', _⟩
  · rw [viewOf_none hnone, viewOf_none hnone']
  · rw [hhosts.viewOf, hhosts'.viewOf]

/-- A move of another server concerns nobody but this one. -/
theorem move_other (h : Mirrors portText token w w') (hmover : mover ≠ token)
    (hapart : w.Apart mover move) (hmove : move.concerns token mover = false) :
    Mirrors portText token (w.move mover move).1 w' := by
  obtain ⟨horderly, hspares⟩ := h.joint.move_other hmover hapart
  have hduration : move.duration = 0 := by
    cases move with
    | step s =>
      cases s with
      | pass ms => cases hmove
      | _ => rfl
    | _ => rfl
  rw [hduration] at hspares
  exact h.spares horderly h.own hspares (.refl token w') rfl

/-- A move looks the same on both machines if it leaves them alike, and logs what looks the same. -/
theorem agree {v v' : Watch} {result : Result} {events events' : List Event}
    (h : Mirrors portText token v v') (hmove : w.move mover move = (v, result))
    (hmove' : w'.move mover move = (v', result))
    (hevents : v.network.events = w.network.events ++ events)
    (hevents' : v'.network.events = w'.network.events ++ events')
    (hrecords : events.map (Event.toRecord portText) = events'.map (Event.toRecord portText)) :
    Mirrors portText token (w.move mover move).1 (w'.move mover move).1 ∧
      w.report portText token mover move = w'.report portText token mover move := by
  rw [report, report, hmove, hmove']
  dsimp only
  rw [hevents, hevents', List.drop_left, List.drop_left, hrecords, h.viewOf]
  exact ⟨h, rfl⟩

/-- Time passes alike on both machines. -/
theorem make_pass (h : Mirrors portText token w w') (ms : Nat) :
    Mirrors portText token (w.make (.pass ms)).1 (w'.make (.pass ms)).1 ∧
      (w.make (.pass ms)).1.network.events = w.network.events ++ [] ∧
      (w'.make (.pass ms)).1.network.events = w'.network.events ++ [] := by
  obtain ⟨horderly, hspares⟩ := h.joint.spares_pass token ms
  obtain ⟨horderly', hspares'⟩ := h.own.spares_pass token ms
  refine ⟨h.spares horderly horderly' hspares hspares' (by rw [h.own.sound.pass_eq]; rfl), ?_, ?_⟩
  · rw [h.joint.sound.pass_eq, List.append_nil]
  · rw [h.own.sound.pass_eq, List.append_nil]

theorem pass (h : Mirrors portText token w w') (mover ms : Nat) :
    Mirrors portText token (w.move mover (.step (.pass ms))).1 (w'.move mover (.step (.pass ms))).1 ∧
      w.report portText token mover (.step (.pass ms)) =
        w'.report portText token mover (.step (.pass ms)) := by
  obtain ⟨hafter, hevents, hevents'⟩ := h.make_pass ms
  exact hafter.agree (w.move_pass mover ms) (w'.move_pass mover ms) hevents hevents' rfl

/-! ### Its own moves -/

theorem cancel (h : Mirrors portText token w w') :
    Mirrors portText token (w.move token .cancel).1 (w'.move token .cancel).1 ∧
      w.report portText token token .cancel = w'.report portText token token .cancel := by
  have hcancelled : ∀ w : Watch, (w.make (.cancel token)).1.network.isCancelled token = true := by
    intro w
    have heq := w.network.isCancelled_cancel token token
    rwa [beq_self_eq_true, Bool.true_or] at heq
  have hafter := h.elapses (h.joint.cancel token) (h.own.cancel token)
    (.make (w.network.cancel_flights token).2) (.make (w'.network.cancel_flights token).2)
    ((w'.network.cancel_places token).symm ▸ h.only)
    ((hcancelled w).trans (hcancelled w').symm)
  rcases h.hosts with ⟨hnone, hnone'⟩ | ⟨id, id', l, l', view, hhosts, hhosts', htwins⟩
  · obtain ⟨habsent, hevents⟩ := h.joint.absent_cancel hnone
    obtain ⟨habsent', hevents'⟩ := h.own.absent_cancel hnone'
    exact (hafter (.inl ⟨habsent, habsent'⟩)).agree rfl rfl
      (hevents.trans (List.append_nil _).symm) (hevents'.trans (List.append_nil _).symm) rfl
  · obtain ⟨hends, hevents⟩ := h.joint.hosts_cancel hhosts
    obtain ⟨hends', hevents'⟩ := h.own.hosts_cancel hhosts'
    refine (hafter (.inr ⟨id, id', l, l', _, hends, hends', htwins⟩)).agree rfl rfl hevents hevents' ?_
    split
    · exact congrArg (fun record => [record]) htwins.stopped
    · rfl

theorem stop (h : Mirrors portText token w w') :
    Mirrors portText token (w.move token .stop).1 (w'.move token .stop).1 ∧
      w.report portText token token .stop = w'.report portText token token .stop := by
  rcases h.hosts with ⟨hnone, hnone'⟩ | ⟨id, id', l, l', view, hhosts, hhosts', htwins⟩
  · have hmove : ∀ {w : Watch}, w.number? token = none → w.move token .stop = (w, .done) :=
      fun {w} hnone => by rw [Watch.move, hnone]
    exact h.agree (hmove hnone) (hmove hnone') (List.append_nil _).symm (List.append_nil _).symm
      (rfl : List.map _ [] = List.map _ [])
  · have hmove : ∀ {w : Watch} {id l v}, w.Hosts token id l v →
        w.move token .stop = w.make (.stop id) := fun {w id l v} hhosts => by
      rw [Watch.move, hhosts.number]
    have hcancelled : ∀ {w : Watch} {id l v}, w.Hosts token id l v →
        (w.make (.stop id)).1.network.isCancelled token = true := by
      intro w id l v hhosts
      obtain ⟨s, hs, _, rfl, _⟩ := hhosts.server
      have heq := w.network.isCancelled_cancel s.token s.token
      rw [beq_self_eq_true, Bool.true_or] at heq
      rw [make_stop hs]
      exact heq
    obtain ⟨hends, hevents⟩ := h.joint.hosts_stop hhosts
    obtain ⟨hends', hevents'⟩ := h.own.hosts_stop hhosts'
    have hafter := h.elapses (h.joint.stop id) (h.own.stop id')
      (.make (w.network.stop_flights id).2) (.make (w'.network.stop_flights id').2)
      ((w'.network.stop_places id').symm ▸ h.only)
      ((hcancelled hhosts).trans (hcancelled hhosts').symm)
      (.inr ⟨id, id', l, l', _, hends, hends', htwins⟩)
    refine hafter.agree (hmove hhosts) (hmove hhosts') hevents hevents' ?_
    rw [List.map_append, List.map_append, htwins.mode]
    split
    · exact congrArg (fun record => [record] ++ _) htwins.stopped
    · rfl

theorem step (h : Mirrors portText token w w') (step : Step) :
    Mirrors portText token (w.move token (.step step)).1 (w'.move token (.step step)).1 ∧
      w.report portText token token (.step step) =
        w'.report portText token token (.step step) := by
  rcases h.hosts with ⟨hnone, hnone'⟩ | ⟨id, id', l, l', view, hhosts, hhosts', htwins⟩
  · have hmove : ∀ {w : Watch}, w.number? token = none →
        w.move token (.step step) = w.make (.pass step.duration) :=
      fun {w} hnone => by rw [Watch.move, hnone]
    obtain ⟨hafter, hevents, hevents'⟩ := h.make_pass step.duration
    exact hafter.agree (hmove hnone) (hmove hnone') hevents hevents' rfl
  · obtain ⟨hview, hresult, hevents⟩ := h.joint.hosts_perform hhosts step
    obtain ⟨hview', hresult', hevents'⟩ := h.own.hosts_perform hhosts' step
    have halike := h.joint.sound.alike_perform (h.joint.alone id) step
    have halike' := h.own.sound.alike_perform (h.own.alone id') step
    have hcancelled : ∀ {n m : Network}, Network.Alike n m →
        m.isCancelled token = n.isCancelled token := fun halike =>
      congrArg (List.contains · token) halike.cancelled
    have hafter := h.elapses (h.joint.perform hhosts.lt_length step)
      (h.own.perform hhosts'.lt_length step)
      (h.joint.sound.elapses_perform (h.joint.alone id) step)
      (h.own.sound.elapses_perform (h.own.alone id') step) (halike'.places.symm ▸ h.only)
      ((hcancelled halike).trans (h.isCancelled.trans (hcancelled halike').symm))
      (.inr ⟨id, id', l, l', _, hview, hview', htwins⟩)
    have hmove : ∀ {w : Watch} {id l v}, w.Hosts token id l v →
        (w.perform id step).2 = (view.perform step).2.1 →
        w.move token (.step step) = ((w.perform id step).1, (view.perform step).2.1) :=
      fun {w id l v} hhosts hresult => by
        rw [Watch.move, hhosts.number, ← hresult]
    exact hafter.agree (hmove hhosts hresult) (hmove hhosts' hresult') hevents hevents' rfl

/-- Nobody else is on the second machine. -/
theorem servers_eq_nil (h : Mirrors portText token w w') (hnone : w'.number? token = none) :
    w'.network.servers = [] :=
  List.eq_nil_iff_forall_not_mem.2 fun s hs =>
    number?_eq_none.1 hnone s hs (h.only _ (List.mem_map_of_mem hs))

/-- A start that fails alike on both machines changes neither. -/
theorem refused {fault : StartFault} (h : Mirrors portText token w w')
    (hmove : w.move token (.start settings) = (w, .startFailed fault))
    (hmove' : w'.move token (.start settings) = (w', .startFailed fault)) :
    Mirrors portText token (w.move token (.start settings)).1
        (w'.move token (.start settings)).1 ∧
      w.report portText token token (.start settings) =
        w'.report portText token token (.start settings) :=
  h.agree hmove hmove' (List.append_nil _).symm (List.append_nil _).symm
    (rfl : List.map _ [] = List.map _ [])

/-- A server that starts on both machines looks the same on both if its addresses do. -/
theorem listens {bound bound' : Socket} (h : Mirrors portText token w w')
    (hapart : w.Apart token (.start settings)) (hnone' : w'.number? token = none)
    (haddress : settings.listenAddress = .ok address) (hbind : w.network.bind address = .ok bound)
    (hbind' : w'.network.bind address = .ok bound')
    (htext : Event.addressField portText bound = Event.addressField portText bound') :
    Mirrors portText token (w.move token (.start settings)).1
        (w'.move token (.start settings)).1 ∧
      w.report portText token token (.start settings) =
        w'.report portText token token (.start settings) := by
  have hservers := h.servers_eq_nil hnone'
  have hlabels : Twins portText ⟨settings.listen.name, some settings.mode, bound⟩
      ⟨settings.listen.name, some settings.mode, bound'⟩ := ⟨rfl, rfl, htext⟩
  have hhosts : (w.started settings token bound).Hosts token _ _ _ :=
    h.joint.hosts_started (number?_eq_none.2 hapart.1)
  have hhosts' : (w'.started settings token bound').Hosts token _ _ _ :=
    h.own.hosts_started hnone'
  rw [← h.isCancelled, ← h.now, ← h.start] at hhosts'
  have hempty : ∀ {p : Server → Prop}, ∀ s ∈ w'.network.servers, p s := fun s hs => by
    rw [hservers] at hs
    cases hs
  have honly : ∀ place ∈ (w'.started settings token bound').network.places, place.1 = token := by
    rw [Network.places, servers_started, hservers]
    simp
  have helapses : ∀ (w : Watch) bound, Elapses 0 w (w.started settings token bound) :=
    fun _ _ => ⟨rfl, rfl, rfl⟩
  have hafter : Mirrors portText token (w.started settings token bound)
      (w'.started settings token bound') := h.elapses
    (h.joint.started hapart.1 (hapart.bound haddress hbind) haddress hbind)
    (h.own.started hempty hempty haddress hbind') (helapses w bound) (helapses w' bound') honly
    h.isCancelled (.inr ⟨_, _, _, _, _, hhosts, hhosts', hlabels⟩)
  refine hafter.agree (move_start haddress hbind) (move_start haddress hbind') events_started
    events_started ?_
  -- Both log that they started, and that they stopped if the token has been cancelled already.
  have happ : (Event.appStarted bound settings.mode).toRecord portText =
      (Event.appStarted bound' settings.mode).toRecord portText := by
    simp only [Event.toRecord, htext]
  have hstarted := hlabels.started
  have hstopped := hlabels.stopped
  dsimp only at hstarted hstopped
  rw [h.isCancelled, List.map_cons, List.map_cons, List.map_cons, List.map_cons, happ, hstarted]
  split
  · rfl
  · rw [List.map_singleton, List.map_singleton, hstopped]

/-- A server starts on both machines, or on none of them. -/
theorem started
    (hport : (Move.start settings).leavesPort →
      ∀ p ∈ Network.ephemeralPorts, ∀ q ∈ Network.ephemeralPorts, portText p = portText q)
    (h : Mirrors portText token w w')
    (hapart : w.Apart token (.start settings)) :
    Mirrors portText token (w.move token (.start settings)).1
        (w'.move token (.start settings)).1 ∧
      w.report portText token token (.start settings) =
        w'.report portText token token (.start settings) := by
  have hnone' : w'.number? token = none := by
    rcases h.hosts with ⟨_, hnone'⟩ | ⟨id, _, _, _, _, hhosts, _⟩
    · exact hnone'
    · have hnone : w.number? token = none := number?_eq_none.2 hapart.1
      rw [hhosts.number] at hnone
      cases hnone
  cases haddress : settings.listenAddress with
  | error fault =>
    have hfault : settings.listenAddress.mapError StartFault.host = .error (.host fault) := by
      rw [haddress]
      rfl
    exact h.refused (move_start_error (.inl hfault)) (move_start_error (.inl hfault))
  | ok address =>
    have htwins := bind_twins (hport ⟨address, haddress, ·⟩) h.joint.sound.link h.own.sound.link
      h.taken (h.servers_eq_nil hnone') hapart haddress
    rcases htwins with ⟨fault, hbind, hbind'⟩ | ⟨bound, bound', hbind, hbind', htext⟩
    · exact h.refused (move_start_error (.inr ⟨address, fault, haddress, hbind, rfl⟩))
        (move_start_error (.inr ⟨address, fault, haddress, hbind', rfl⟩))
    · exact h.listens hapart hnone' haddress hbind hbind' htext

/-- A move of the server looks the same on both machines. -/
theorem move_own
    (hport : move.leavesPort →
      ∀ p ∈ Network.ephemeralPorts, ∀ q ∈ Network.ephemeralPorts, portText p = portText q)
    (h : Mirrors portText token w w') (hapart : w.Apart token move) :
    Mirrors portText token (w.move token move).1 (w'.move token move).1 ∧
      w.report portText token token move = w'.report portText token token move := by
  cases move with
  | start settings => exact h.started hport hapart
  | stop => exact h.stop
  | cancel => exact h.cancel
  | step step => exact h.step step

/-- What is seen of the server is the same on both machines. -/
theorem reports {session : List (Nat × Move)}
    (hport : ∀ move, (token, move) ∈ session → move.leavesPort →
      ∀ p ∈ Network.ephemeralPorts, ∀ q ∈ Network.ephemeralPorts, portText p = portText q)
    (h : Mirrors portText token w w') (hseparate : w.Separate session) :
    ((session.zip (w.reports portText token session)).filter
        fun (m, _) => m.2.concerns token m.1).map Prod.snd =
      w'.reports portText token (session.filter fun m => m.2.concerns token m.1) := by
  induction session generalizing w w' with
  | nil => rfl
  | cons first rest ih =>
    obtain ⟨mover, move⟩ := first
    obtain ⟨hapart, hrest⟩ := hseparate
    have hport' := fun move hmem => hport move (List.mem_cons_of_mem _ hmem)
    rw [Watch.reports, List.zip_cons_cons]
    cases hconcerns : move.concerns token mover with
    | false =>
      have hmover : mover ≠ token := fun heq => by
        rw [Move.concerns_iff.2 (.inl heq)] at hconcerns
        cases hconcerns
      simp only [List.filter_cons, hconcerns, if_neg Bool.false_ne_true]
      exact ih hport' (h.move_other hmover hapart hconcerns) hrest
    | true =>
      obtain ⟨hafter, hreport⟩ :
          Mirrors portText token (w.move mover move).1 (w'.move mover move).1 ∧
            w.report portText token mover move = w'.report portText token mover move := by
        -- The only moves of others that concern the server are pauses.
        rcases Move.concerns_iff.1 hconcerns with rfl | ⟨ms, rfl⟩
        · exact h.move_own (hport move List.mem_cons_self) hapart
        · exact h.pass mover ms
      simp only [List.filter_cons, hconcerns, if_true, List.map_cons]
      rw [Watch.reports, hreport, ih hport' hafter hrest]

end Mirrors

/-- What is seen of one of several servers, which have tokens and addresses of their own, is what is
seen of it in the session without the moves of the others, with only their pauses kept: what comes
of its moves, what they log, its counter, whether it listens, and all that its clients get, and when.
If it leaves its port to the system, ports that the system may choose have to be written alike.

The same holds of dispatchers side by side. -/
theorem instances_apart (taken : List Socket) (portText : UInt16 → List Char) (token : Nat)
    (session : List (Nat × Move))
    (hport : ∀ move, (token, move) ∈ session → move.leavesPort →
      ∀ p ∈ Network.ephemeralPorts, ∀ q ∈ Network.ephemeralPorts, portText p = portText q)
    (hseparate : (Watch.of (.fresh .up taken)).Separate session) :
    ((session.zip ((Watch.of (.fresh .up taken)).reports portText token session)).filter
          fun (m, _) => m.2.concerns token m.1).map Prod.snd =
        (Watch.of (.fresh .up taken)).reports portText token
          (session.filter fun m => m.2.concerns token m.1) ∧
      ∀ (sessions : List Dispatch.Session) (moves : List (Nat × Dispatch.Move)) (id : Nat),
        (Dispatch.runAmong sessions moves)[id]? =
          (sessions[id]?).map (·.run (Dispatch.ownMoves id sessions moves)) :=
  ⟨(Mirrors.of_fresh taken).reports hport hseparate, Dispatch.getElem?_runAmong⟩

/-- Two servers whose hangs overlap; the second one is stopped in the midst of them. -/
theorem instances_apart_overlap :
    let turn := Http.Request.bytes "GET" "/eachThirdReturns200OthersHang" "HTTP/1.1" []
    let start (token : Nat) (settings : Settings) : Nat × Move := (token, .start settings)
    let step (token : Nat) (step : Step) : Nat × Move := (token, .step step)
    let session := [start 1 .default, start 2 (Settings.default.withPort 12346),
      step 1 (.request 0 turn), step 2 (.request 0 turn), step 2 (.pass 1000),
      step 2 (.advance 7), (2, .stop), step 1 (.request 0 turn), step 1 (.pass 1000000)]
    let alone := [start 1 .default, step 1 (.request 0 turn), step 2 (.pass 1000),
      step 1 (.request 0 turn), step 1 (.pass 1000000)]
    let w := Watch.of (.fresh .up [])
    let portText (port : UInt16) := Nat.toDigits 10 port.toNat
    (∀ move, (1, move) ∈ session → move.leavesPort →
        ∀ p ∈ Network.ephemeralPorts, ∀ q ∈ Network.ephemeralPorts, portText p = portText q) ∧
      w.Separate session ∧ session.filter (fun m => m.2.concerns 1 m.1) = alone ∧
      ((session.zip (w.reports portText 1 session)).filter
        fun (m, _) => m.2.concerns 1 m.1).map Prod.snd = w.reports portText 1 alone := by
  intro turn start step session alone w portText
  have haddress : Settings.default.listenAddress = .ok ⟨.localhost, 12345⟩ := by decide +kernel
  have haddress' : (Settings.default.withPort 12346).listenAddress = .ok ⟨.localhost, 12346⟩ := by
    decide +kernel
  have hport : ∀ move, (1, move) ∈ session → move.leavesPort →
      ∀ p ∈ Network.ephemeralPorts, ∀ q ∈ Network.ephemeralPorts, portText p = portText q := by
    intro move hmem hleaves
    cases move with
    | start settings =>
      obtain rfl : settings = .default := by simpa [session, start, step] using hmem
      obtain ⟨address, hown, hzero⟩ := hleaves
      obtain rfl := Except.ok.inj (haddress.symm.trans hown)
      exact absurd hzero (by decide)
    | _ => exact hleaves.elim
  have hfirst : (w.move 1 (.start .default)).1 = w.started .default 1 ⟨.localhost, 12345⟩ :=
    congrArg Prod.fst (move_start haddress rfl)
  have hseparate : w.Separate session := by
    refine ⟨⟨nofun, fun address hown => ?_⟩, ⟨?_, fun address hown => ?_⟩, trivial, trivial, trivial,
      trivial, trivial, trivial, trivial, trivial⟩
    · obtain rfl := Except.ok.inj (haddress.symm.trans hown)
      rw [if_neg (by decide)]
      exact nofun
    · rw [hfirst, servers_started]
      exact fun s hs => by
        obtain rfl := List.mem_singleton.1 hs
        decide
    · obtain rfl := Except.ok.inj (haddress'.symm.trans hown)
      rw [if_neg (by decide), hfirst, servers_started]
      exact fun s hs => by
        obtain rfl := List.mem_singleton.1 hs
        decide
  exact ⟨hport, hseparate, rfl, (instances_apart [] portText 1 session hport hseparate).1⟩

end Watch

end FaultyServer

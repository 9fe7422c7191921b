import FaultyServer.Proofs.Http.Target
import FaultyServer.Proofs.Network.OneByOne
import FaultyServer.Proofs.Route.Order

/-!
# Only the path counts

A target holds more than a path, but a server that injects faults looks at the path alone, and at
the path as it has been sent. So two clients that send the same path in different frames see the
same, in every session (`Network.only_path_counts`).

* `Request.SamePath.interchangeable`: what is said about interchangeable requests holds of requests
  for the same path;
* `Quiet.make_samePath`, `Quiet.run_samePath`: an action, and so a session, with other frames.
-/

namespace FaultyServer

open Address (Socket)
open Http (Head Headers Incoming Method Request Target)
open Http.Target (Frame)
open Route (resolve table)

namespace Http

/-- Two requests with one method for one path, each of them in a frame of its own. Their headers and
their bodies may differ, too. -/
structure Request.SamePath (r r' : Request) : Prop where
  method : r.method = r'.method
  path : ∃ path, r.IsFor path ∧ r'.IsFor path

theorem Request.SamePath.interchangeable {r r' : Request} (h : r.SamePath r') :
    r.Interchangeable r' := by
  obtain ⟨path, hr, hr'⟩ := h.path
  exact ⟨hr.path.trans hr'.path.symm, .inl h.method⟩

end Http

namespace Network

variable {n : Network} {settings : Settings}

/-- Two actions that are the same, but for the frame of the path that a client sends, and for what
its bytes say beside the method, the target and the version. -/
inductive Action.SamePath : Action → Action → Prop
  | refl (action : Action) : SamePath action action
  | request (address : Socket) {bytes bytes' rest rest' : List UInt8} {head head' : Head}
      (read : Incoming.read bytes = .complete head rest)
      (read' : Incoming.read bytes' = .complete head' rest')
      (version : head.version = head'.version)
      (request : head.request.SamePath head'.request) :
      SamePath (.request address bytes) (.request address bytes')

/-- A server of an application gives the same answer to bytes with other frames. -/
theorem next_samePath {bytes bytes' rest rest' : List UInt8} {head head' : Head}
    (hread : Incoming.read bytes = .complete head rest)
    (hread' : Incoming.read bytes' = .complete head' rest')
    (hversion : head.version = head'.version) (hrequest : head.request.SamePath head'.request)
    (c : Counter) :
    (Connection.ofBytes bytes).next (.ofSettings settings) c =
      (Connection.ofBytes bytes').next (.ofSettings settings) c := by
  rw [Connection.next_of_complete hread, Connection.next_of_complete hread', hversion,
    Service.answer_congr _ _ hrequest.interchangeable]

theorem Quiet.make_samePath (h : n.Quiet) {action other : Action} (hsame : action.SamePath other) :
    n.make action = n.make other := by
  cases hsame with
  | refl => rfl
  | @request address bytes bytes' _ _ _ _ hread hread' hversion hrequest =>
    have hreads : ∀ id, n.read id (.ofBytes bytes) = n.read id (.ofBytes bytes') := by
      intro id
      rw [Network.read, Network.read]
      cases hs : n.servers[id]? with
      | none => rfl
      | some s =>
        obtain ⟨settings, hservice⟩ := h.servers s (List.mem_of_getElem? hs)
        dsimp only
        rw [hservice, next_samePath hread hread' hversion hrequest]
    simp only [make_request, hreads]

/-- In no session does anybody see in which frames the paths have been sent. -/
theorem Quiet.run_samePath (h : n.Quiet) {actions others : List Action}
    (hsame : List.Forall₂ Action.SamePath actions others) : n.run actions = n.run others := by
  induction hsame generalizing n with
  | nil => rfl
  | @cons action other rest others hfirst _ ih =>
    have hmake := h.make_samePath hfirst
    rw [run_cons_eq, run_cons_eq, ← hmake, ih (h.make action)]

/-- Only the path of a target counts for a server that injects faults.

A path that is sent with an authority before it and with a query and a fragment after it is left as
it has been sent, and the request is the one for the path alone, but for the rest of its target. It
gets what the path gets when it is dispatched. So requests for the same paths, each of them in a
frame of its own, get the same answers one after another through all layers, and no session shows
which frames they had. In the path itself a route counts only at the start, and as it is written:
what comes behind a slash, a dot or a percent sign makes no difference. -/
theorem only_path_counts (settings : Settings) (hmode : settings.mode = .failureInjection) :
    let router := (Service.ofSettings settings).bare
    (∀ (frame : Frame) path, frame.Fits path →
      Target.ofString (frame.text path) = .ok (frame.target path) ∧
      (frame.target path).path = path ∧
      ∀ method headers body, Request.make method (frame.text path) headers body =
        (Request.make method (String.ofList path) headers body).map fun r =>
          { r with target := frame.target path }) ∧
    (∀ (c : Counter) (r : Request) path, r.IsFor path →
      (r.method.name = "GET" ∨ r.method.name = "POST" →
        (router.answer c r).Renders (settings.dispatcher.dispatch c path)) ∧
      (r.method.name ≠ "GET" ∧ r.method.name ≠ "POST" →
        (router.answer c r).Refuses r.method c)) ∧
    (∀ layers c requests others, List.Forall₂ Request.SamePath requests others →
      { router with layers : Service }.answerAll c requests =
        { router with layers : Service }.answerAll c others) ∧
    (∀ link taken actions others, List.Forall₂ Action.SamePath actions others →
      (fresh link taken).run actions = (fresh link taken).run others) ∧
    ∀ path : List Char,
      (∀ route ∈ table, route.start.toList <+: path → resolve path = route.behavior) ∧
      ((∀ route ∈ table, ¬ route.start.toList <+: path) → resolve path = .ok) ∧
      ∀ before mark after, path = before ++ mark :: after → before ≠ [] →
        mark ∈ ['/', '.', '%'] → resolve path = resolve before := by
  intro router
  refine ⟨fun frame path hfits => ⟨hfits.ofString_text, rfl, fun method headers body =>
    Request.make_frame hfits method headers body⟩, fun c r path hr => ?_,
    fun layers c requests others hsame => ?_,
    fun link taken actions others => (fresh_quiet link taken).run_samePath, fun path => ?_⟩
  · rw [← hr.path]
    exact ⟨Service.bare_renders settings c hmode, Service.bare_refuses settings c hmode⟩
  · exact Service.answerAll_congr _ c (hsame.imp fun _ _ => Request.SamePath.interchangeable)
  · refine ⟨fun route hmem hstart => ?_, fun hnone => ?_, ?_⟩
    · exact Route.resolveIn_of_takes Route.table_apart hmem (Route.takes_iff.2 hstart)
    · refine Route.resolveIn_of_not_takes fun route hmem htakes => ?_
      exact hnone route hmem (Route.takes_iff.1 htakes)
    · rintro before mark after rfl hbefore hmark
      exact Route.resolve_append_cons hbefore hmark after

/-- A path that only looks like other ones, in a frame that holds routes: nothing of it is special,
and the server answers it as it answers the path alone. -/
theorem only_path_counts_framed :
    let path := "/%34/../403//hang".toList
    let frame : Frame := ⟨some "403:80".toList, some "/503?".toList, some "/xml".toList⟩
    let session (target : String) : List Action :=
      [.start .default none,
        .request ⟨.localhost, 12345⟩ (Request.bytes "GET" target "HTTP/1.1" [])]
    frame.text path = "http://403:80/%34/../403//hang?/503?#/xml" ∧ frame.Fits path ∧
    (frame.target path).path = path ∧ resolve path = .ok ∧
    (fresh .up []).run (session (frame.text path)) =
      (fresh .up []).run (session (String.ofList path)) := by
  intro path frame session
  have hfits : frame.Fits path :=
    { isPath := ⟨rfl, List.all_eq_true.1 (by decide +kernel)⟩
      authority := by
        rintro _ ⟨⟩
        exact ⟨by decide, by decide +kernel⟩
      query := by
        rintro _ ⟨⟩
        exact List.all_eq_true.1 (by decide +kernel)
      size := by decide +kernel }
  have hread : ∀ f ∈ [frame, Frame.none],
      Incoming.read (Request.bytes "GET" (f.text path) "HTTP/1.1" []) =
        .complete ⟨⟨⟨"GET", by decide⟩, f.target path, [], ""⟩, .http11, .length 0⟩ [] := by
    decide +kernel
  obtain ⟨htarget, _, _, hrun, hresolve⟩ := only_path_counts .default rfl
  have hsame : Request.SamePath ⟨⟨"GET", by decide⟩, frame.target path, [], ""⟩
      ⟨⟨"GET", by decide⟩, Frame.none.target path, [], ""⟩ :=
    ⟨rfl, path, ⟨frame, hfits, hfits.ofString_text⟩,
      ⟨Frame.none, hfits.plain, hfits.plain.ofString_text⟩⟩
  refine ⟨by decide +kernel, hfits, (htarget frame path hfits).2.1, ?_, ?_⟩
  · exact (hresolve path).2.2 "/".toList '%' "34/../403//hang".toList rfl (by decide) (by decide)
  · rw [← Frame.text_none]
    refine hrun .up [] _ _ (.cons (.refl _) (.cons (.request _ (hread frame ?_) (hread .none ?_)
      rfl hsame) .nil))
    · exact List.mem_cons_self
    · exact List.mem_cons_of_mem _ List.mem_cons_self

end Network

end FaultyServer

import FaultyServer.Http.Message
import FaultyServer.Proofs.Except
import Mathlib.Tactic.Common

/-!
# Paths in targets

A path can be sent by itself or in a frame: behind `http://` and an authority, and before a query
and a fragment (`Target.Frame`). Whatever the frame is, the target is split around the path, which
is left as it has been sent (`Target.Frame.Fits.ofString_text`).
-/

namespace FaultyServer.Http

namespace Target

/-- A path as a target may hold it. -/
structure IsPath (path : List Char) : Prop where
  starts : path.head? = some '/'
  chars : ∀ c ∈ path, isPathChar c = true

/-- A text that is an authority from its first character to its last one. -/
def IsAuthority (text : List Char) : Prop := text ≠ [] ∧ splitAuthority text = .ok (text, [])

/-- What may stand around a path in a target. -/
structure Frame where
  authority : Option (List Char)
  query : Option (List Char)
  fragment : Option (List Char)

namespace Frame

/-- Nothing around a path. -/
def none : Frame := ⟨.none, .none, .none⟩

/-- What comes before a path. -/
def before (frame : Frame) : List Char :=
  match frame.authority with
  | .none => []
  | some authority => "http://".toList ++ authority

/-- What comes after a path. -/
def after (frame : Frame) : List Char :=
  (match frame.query with
    | .none => []
    | some query => '?' :: query) ++
  match frame.fragment with
  | .none => []
  | some fragment => '#' :: fragment

/-- A path in its frame. -/
def text (frame : Frame) (path : List Char) : String :=
  String.ofList (frame.before ++ path ++ frame.after)

/-- A frame makes a target of a path that is not too long. Any text may be a fragment. -/
structure Fits (frame : Frame) (path : List Char) : Prop where
  isPath : IsPath path
  authority : ∀ authority ∈ frame.authority, IsAuthority authority
  query : ∀ query ∈ frame.query, ∀ c ∈ query, isQueryChar c = true
  size : (frame.text path).utf8ByteSize ≤ maxBytes

/-- The parts of a target around a path. The fragment is none of them. -/
def target (frame : Frame) (path : List Char) : Target :=
  ⟨frame.authority.map fun _ => "http".toList, frame.authority.getD [], path, frame.query⟩

end Frame

variable {frame : Frame} {path query : List Char}

/-! ## Splitting -/

/-- A query ends with the text or with a fragment. -/
theorem readQuery_append (h : ∀ c ∈ query, isQueryChar c = true) (fragment : Option (List Char)) :
    readQuery (query ++ match fragment with | .none => [] | some f => '#' :: f) = .ok query := by
  induction query with
  | nil => cases fragment <;> rfl
  | cons c query ih =>
    obtain ⟨hc, hquery⟩ := List.forall_mem_cons.1 h
    have hne : c ≠ '#' := by
      rintro rfl
      cases hc
    rw [List.cons_append, readQuery, if_neg hne, if_pos hc, ih hquery]
    rfl

/-- A path ends where its frame goes on. -/
theorem readPath_append (hpath : ∀ c ∈ path, isPathChar c = true)
    (hquery : ∀ query ∈ frame.query, ∀ c ∈ query, isQueryChar c = true) :
    readPath (path ++ frame.after) = .ok (path, frame.query) := by
  induction path with
  | nil =>
    obtain ⟨authority, query, fragment⟩ := frame
    cases query with
    | none => cases fragment <;> rfl
    | some query =>
      have hread := readQuery_append (hquery query rfl) fragment
      rw [List.nil_append, Frame.after, List.cons_append, readPath, if_neg (by decide),
        if_pos rfl]
      dsimp only
      rw [hread]
      rfl
  | cons c path ih =>
    obtain ⟨hc, hpath⟩ := List.forall_mem_cons.1 hpath
    have hne : c ≠ '#' ∧ c ≠ '?' := by
      constructor <;> rintro rfl <;> cases hc
    rw [List.cons_append, readPath, if_neg hne.1, if_neg hne.2, if_pos hc, ih hpath]
    rfl

/-- What the next character of an authority makes of its state does not depend on what follows. -/
theorem exists_readAuthority_cons (s : AuthorityState) {c : Char}
    (hc : ¬ (c = '/' ∨ c = '?' ∨ c = '#')) :
    ∃ next : Except TargetFault AuthorityState, ∀ rest, readAuthority s (c :: rest) =
      next >>= fun s => readAuthority s rest >>= fun (text, rest) => .ok (c :: text, rest) := by
  simp only [readAuthority, if_neg hc]
  split_ifs <;> exact ⟨_, fun _ => rfl⟩

/-- An authority ends where a path begins. -/
theorem readAuthority_append {s : AuthorityState} {authority : List Char}
    (h : readAuthority s authority = .ok (authority, [])) (rest : List Char) :
    readAuthority s (authority ++ '/' :: rest) = .ok (authority, '/' :: rest) := by
  induction authority generalizing s with
  | nil =>
    obtain ⟨_, hcheck, _⟩ := Except.bind_eq_ok.1 h
    rw [List.nil_append, readAuthority, if_pos (.inl rfl), hcheck]
    rfl
  | cons c authority ih =>
    by_cases hc : c = '/' ∨ c = '?' ∨ c = '#'
    · rw [readAuthority, if_pos hc] at h
      obtain ⟨_, _, heq⟩ := Except.bind_eq_ok.1 h
      cases heq
    · obtain ⟨next, hnext⟩ := exists_readAuthority_cons s hc
      rw [hnext] at h
      obtain ⟨s', hstate, h⟩ := Except.bind_eq_ok.1 h
      obtain ⟨⟨first, last⟩, hread, heq⟩ := Except.bind_eq_ok.1 h
      cases heq
      rw [List.cons_append, hnext, hstate, Except.ok_bind, ih hread]
      rfl

/-- A target with a scheme is split into its scheme, its authority and what is left. -/
theorem ofFull_http {authority rest : List Char} (hne : authority ≠ [])
    (h : splitAuthority (authority ++ rest) = .ok (authority, rest)) :
    ofFull ("http://".toList ++ (authority ++ rest)) =
      readPath rest >>= fun (path, query) =>
        .ok ⟨some "http".toList, authority, if path.isEmpty then ['/'] else path, query⟩ := by
  have hscheme : splitScheme ("http://".toList ++ (authority ++ rest)) =
      .ok (some "http".toList, authority ++ rest) := rfl
  have hauthority : authority.isEmpty = false := List.isEmpty_eq_false_iff.2 hne
  rw [ofFull, hscheme, Except.ok_bind]
  dsimp only
  rw [h, Except.ok_bind]
  dsimp only
  rw [hauthority]
  rfl

/-- Whatever stands around a path, the target is split there. -/
theorem ofChars_frame (h : IsPath path) (hauthority : ∀ a ∈ frame.authority, IsAuthority a)
    (hquery : ∀ query ∈ frame.query, ∀ c ∈ query, isQueryChar c = true) :
    ofChars (frame.before ++ path ++ frame.after) = .ok (frame.target path) := by
  have hread := readPath_append h.chars hquery
  obtain ⟨rest, rfl⟩ : ∃ rest, path = '/' :: rest := List.head?_eq_some_iff.1 h.starts
  obtain ⟨authority, query, fragment⟩ := frame
  cases authority with
  | none =>
    rw [List.cons_append] at hread
    rw [Frame.before, List.nil_append, List.cons_append, ofChars, hread]
    rfl
  | some authority =>
    obtain ⟨hne, hwhole⟩ := hauthority authority rfl
    have hsplit := readAuthority_append hwhole
      (rest ++ Frame.after ⟨some authority, query, fragment⟩)
    rw [Frame.before, List.append_assoc, List.append_assoc]
    exact (ofFull_http hne hsplit).trans (by rw [← List.cons_append, hread]; rfl)

/-- A path in a frame makes a target whose path is the one that has been sent, character for
character. -/
theorem Frame.Fits.ofString_text (h : frame.Fits path) :
    ofString (frame.text path) = .ok (frame.target path) := by
  rw [ofString, if_neg (Nat.not_lt.2 h.size), Frame.text, String.toList_ofList]
  exact ofChars_frame h.isPath h.authority h.query

theorem Frame.text_none (path : List Char) : none.text path = String.ofList path := by
  simp [text, before, after, none]

/-- What can be sent in a frame can be sent without one. -/
theorem Frame.Fits.plain (h : frame.Fits path) : none.Fits path where
  isPath := h.isPath
  authority := nofun
  query := nofun
  size := by
    have hsize := h.size
    rw [Frame.text, String.ofList_append, String.ofList_append, String.utf8ByteSize_append,
      String.utf8ByteSize_append] at hsize
    rw [Frame.text_none]
    omega

end Target

/-- A request for a path in a frame is the request for the path alone, but for its target. -/
theorem Request.make_frame {frame : Target.Frame} {path : List Char} (h : frame.Fits path)
    (method : String) (headers : Headers) (body : String) :
    make method (frame.text path) headers body =
      (make method (String.ofList path) headers body).map fun r =>
        { r with target := frame.target path } := by
  have hplain := h.plain.ofString_text
  rw [Target.Frame.text_none] at hplain
  rw [make, make]
  cases Method.of? method with
  | none => rfl
  | some m =>
    dsimp only
    rw [h.ofString_text, hplain]
    simp only [Except.mapError_ok, Except.ok_bind]
    cases headers.check with
    | error fault => rfl
    | ok headers => rfl

/-- A request is for a path: its target is the path, in some frame. -/
def Request.IsFor (r : Request) (path : List Char) : Prop :=
  ∃ frame : Target.Frame, frame.Fits path ∧ Target.ofString (frame.text path) = .ok r.target

theorem Request.IsFor.path {r : Request} {path : List Char} (h : r.IsFor path) :
    r.target.path = path := by
  obtain ⟨frame, hfits, htarget⟩ := h
  rw [← Except.ok.inj (hfits.ofString_text.symm.trans htarget)]
  rfl

end FaultyServer.Http

import FaultyServer.Route
import Mathlib.Data.List.Find
import Mathlib.Data.List.MinMax
import Mathlib.Data.List.Pairwise

/-!
# The order of the routes

The routing table is read from its top, and the first route that takes a path wins. In which order
its routes stand does not matter: no route starts like another one (`Apart`), so a path belongs to
one route at most, and any way of choosing among the routes that take it finds that one.

* `eq_of_takes`: the routes of such a table share no path;
* `behavior_of_choice`: any choice among the routes that take a path gives its behavior;
* `takes_iff_bytes`: paths are compared byte by byte;
* `resolve_order`: the routing table in any order, read from either end or for its longest match.
-/

namespace FaultyServer.Route

/-- Neither of two routes starts like the other one. -/
def Apart (a b : Route) : Prop :=
  ¬ a.start.toList <+: b.start.toList ∧ ¬ b.start.toList <+: a.start.toList

instance (a b : Route) : Decidable (a.Apart b) := inferInstanceAs (Decidable (_ ∧ _))

instance : Std.Symm Apart := ⟨fun _ _ h => ⟨h.2, h.1⟩⟩

/-- The behavior for a path by the last route that takes it. -/
def resolveLast (routes : List Route) (path : List Char) : Behavior :=
  resolveIn routes.reverse path

/-- The behavior for a path by the longest route that takes it. -/
def resolveLongest (routes : List Route) (path : List Char) : Behavior :=
  (((routes.filter (·.takes path)).argmax (·.start.length)).map behavior).getD .ok

/-- The bytes of a text. -/
def bytes (text : List Char) : List UInt8 := (String.ofList text).toUTF8.data.toList

variable {routes : List Route} {path : List Char} {route other : Route}

theorem takes_iff : route.takes path = true ↔ route.start.toList <+: path :=
  List.isPrefixOf_iff_prefix

theorem resolveIn_eq (routes : List Route) (path : List Char) :
    resolveIn routes path = ((routes.find? (·.takes path)).map behavior).getD .ok := by
  rw [resolveIn]
  split <;> next h => rw [h]; rfl

/-! ## Bytes -/

theorem bytes_append (text rest : List Char) : bytes (text ++ rest) = bytes text ++ bytes rest := by
  simp [bytes]

/-- A text starts another one exactly if its bytes do. -/
theorem bytes_prefix_iff {text longer : List Char} :
    bytes text <+: bytes longer ↔ text <+: longer := by
  constructor
  · rintro ⟨rest, hrest⟩
    refine List.isPrefix_of_utf8Encode_append_eq_utf8Encode ⟨rest.toArray⟩ ?_
    refine ByteArray.ext (Array.toList_inj.1 ?_)
    simpa [bytes] using hrest
  · rintro ⟨rest, rfl⟩
    exact ⟨bytes rest, (bytes_append text rest).symm⟩

/-- Paths are compared byte by byte. -/
theorem takes_iff_bytes : route.takes path = true ↔ bytes route.start.toList <+: bytes path := by
  rw [takes_iff, bytes_prefix_iff]

/-! ## Tables whose routes are apart -/

/-- Of two routes that take the same path the shorter one starts the longer one. -/
theorem not_apart_of_takes (h : route.takes path = true) (h' : other.takes path = true) :
    ¬ route.Apart other := by
  rintro ⟨hroute, hother⟩
  rcases List.prefix_or_prefix_of_prefix (takes_iff.1 h) (takes_iff.1 h') with hstart | hstart
  · exact hroute hstart
  · exact hother hstart

/-- Routes that are apart share no path. -/
theorem eq_of_takes (hroutes : routes.Pairwise Apart) (hmem : route ∈ routes)
    (hmem' : other ∈ routes) (h : route.takes path = true) (h' : other.takes path = true) :
    route = other := by
  by_contra hne
  exact not_apart_of_takes h h' (hroutes.forall hmem hmem' hne)

/-- A path belongs to one route at most. -/
theorem length_filter_takes (hroutes : routes.Pairwise Apart) (path : List Char) :
    (routes.filter (·.takes path)).length ≤ 1 := by
  have hapart := hroutes.filter (·.takes path)
  have htakes : ∀ route ∈ routes.filter (·.takes path), route.takes path = true :=
    fun _ hmem => (List.mem_filter.1 hmem).2
  cases hl : routes.filter (·.takes path) with
  | nil => exact Nat.zero_le _
  | cons first rest =>
    cases rest with
    | nil => exact le_rfl
    | cons second rest =>
      rw [hl] at hapart htakes
      have hfirst := htakes first List.mem_cons_self
      have hsecond := htakes second (List.mem_cons_of_mem _ List.mem_cons_self)
      exact absurd (List.rel_of_pairwise_cons hapart List.mem_cons_self)
        (not_apart_of_takes hfirst hsecond)

/-- Any way of choosing a route that takes a path, if there is one, gives the behavior of the
path. -/
theorem behavior_of_choice (hroutes : routes.Pairwise Apart) {choice : Option Route}
    (hsome : ∀ route, choice = some route → route ∈ routes ∧ route.takes path = true)
    (hnone : choice = none → ∀ route ∈ routes, ¬ route.takes path = true) :
    (choice.map behavior).getD .ok = resolveIn routes path := by
  rw [resolveIn_eq]
  cases hfirst : routes.find? fun route => route.takes path with
  | some first =>
    have hmem : first ∈ routes := List.mem_of_find?_eq_some hfirst
    have htakes : first.takes path = true := List.find?_some (p := (takes · path)) hfirst
    cases choice with
    | some route =>
      obtain ⟨hmem', htakes'⟩ := hsome route rfl
      exact congrArg behavior (eq_of_takes hroutes hmem' hmem htakes' htakes)
    | none => exact absurd htakes (hnone rfl first hmem)
  | none =>
    cases choice with
    | some route =>
      obtain ⟨hmem, htakes⟩ := hsome route rfl
      exact absurd htakes (List.find?_eq_none.1 hfirst route hmem)
    | none => rfl

/-- The first route that takes a path in another order of the table. -/
theorem resolveIn_perm (hroutes : routes.Pairwise Apart) {reordered : List Route}
    (hperm : reordered.Perm routes) (path : List Char) :
    resolveIn reordered path = resolveIn routes path := by
  rw [resolveIn_eq]
  refine behavior_of_choice hroutes (fun route hroute => ⟨?_, ?_⟩) fun hnone route hmem => ?_
  · exact hperm.subset (List.mem_of_find?_eq_some hroute)
  · exact List.find?_some (p := (takes · path)) hroute
  · exact List.find?_eq_none.1 hnone route (hperm.symm.subset hmem)

theorem resolveLast_eq (hroutes : routes.Pairwise Apart) (path : List Char) :
    resolveLast routes path = resolveIn routes path :=
  resolveIn_perm hroutes routes.reverse_perm path

theorem resolveLongest_eq (hroutes : routes.Pairwise Apart) (path : List Char) :
    resolveLongest routes path = resolveIn routes path := by
  refine behavior_of_choice hroutes (fun route hroute => ?_) fun hnone route hmem htakes => ?_
  · exact List.mem_filter.1 (List.argmax_mem hroute)
  · exact List.filter_eq_nil_iff.1 (List.argmax_eq_none.1 hnone) route hmem htakes

/-- A path that a route takes gets the behavior of that route. -/
theorem resolveIn_of_takes (hroutes : routes.Pairwise Apart) (hmem : route ∈ routes)
    (htakes : route.takes path = true) : resolveIn routes path = route.behavior := by
  have hchoice : ∀ other, some route = some other → other ∈ routes ∧ other.takes path = true := by
    rintro _ ⟨⟩
    exact ⟨hmem, htakes⟩
  exact (behavior_of_choice hroutes hchoice nofun).symm

/-- A path that no route takes is answered with success. -/
theorem resolveIn_of_not_takes (h : ∀ route ∈ routes, ¬ route.takes path = true) :
    resolveIn routes path = .ok := by
  rw [resolveIn, List.find?_eq_none.2 h]

/-- A path is special exactly if a route takes it. -/
theorem resolveIn_ne_ok_iff (hroutes : routes.Pairwise Apart)
    (hspecial : ∀ route ∈ routes, route.behavior ≠ .ok) :
    resolveIn routes path ≠ .ok ↔ ∃ route ∈ routes, route.takes path = true := by
  constructor
  · intro hne
    by_contra hnone
    exact hne (resolveIn_of_not_takes fun route hmem htakes => hnone ⟨route, hmem, htakes⟩)
  · rintro ⟨route, hmem, htakes⟩
    rw [resolveIn_of_takes hroutes hmem htakes]
    exact hspecial route hmem

/-- What follows a special path does not matter. -/
theorem resolveIn_append (hroutes : routes.Pairwise Apart) (hmem : route ∈ routes)
    (htakes : route.takes path = true) (suffix : List Char) :
    resolveIn routes (path ++ suffix) = resolveIn routes path := by
  have hlonger : route.takes (path ++ suffix) = true :=
    takes_iff.2 ((takes_iff.1 htakes).trans (List.prefix_append path suffix))
  rw [resolveIn_of_takes hroutes hmem hlonger, resolveIn_of_takes hroutes hmem htakes]

/-- A path that a route starts with, without being the whole of it, is not special. -/
theorem resolveIn_of_part (hroutes : routes.Pairwise Apart) (hmem : route ∈ routes)
    (hpart : path <+: route.start.toList) (hne : path ≠ route.start.toList) :
    resolveIn routes path = .ok := by
  refine resolveIn_of_not_takes fun other hmem' htakes => ?_
  have hstart := takes_iff.1 htakes
  -- The route takes its own start, and so does the other one.
  have hother : other.takes route.start.toList = true := takes_iff.2 (hstart.trans hpart)
  obtain rfl := eq_of_takes hroutes hmem hmem' (takes_iff.2 (List.prefix_refl _)) hother
  exact hne (hpart.eq_of_length_le hstart.length_le)

/-- A character that a route does not have behind its first one ends what it can take. -/
theorem takes_append_cons {mark : Char} (hpath : path ≠ [])
    (hmark : mark ∉ route.start.toList.tail) (rest : List Char) :
    route.takes (path ++ mark :: rest) = route.takes path := by
  rw [Bool.eq_iff_iff, takes_iff, takes_iff]
  refine ⟨fun hlonger => ?_, fun hpath => hpath.trans (List.prefix_append _ _)⟩
  rcases Nat.lt_or_ge path.length route.start.toList.length with hlt | hle
  · -- The route would go on past the mark.
    have hupto : path ++ [mark] <+: path ++ mark :: rest := ⟨rest, List.append_cons .. |>.symm⟩
    obtain ⟨more, hstart⟩ := List.prefix_of_prefix_length_le hupto hlonger (by
      rw [List.length_append, List.length_singleton]
      exact hlt)
    obtain ⟨c, path, rfl⟩ := List.exists_cons_of_ne_nil hpath
    refine absurd ?_ hmark
    rw [← hstart]
    simp
  · exact List.prefix_of_prefix_length_le hlonger (List.prefix_append _ _) hle

/-- What comes after such a character does not matter. -/
theorem resolveIn_append_cons {mark : Char} (hpath : path ≠ [])
    (hmark : ∀ route ∈ routes, mark ∉ route.start.toList.tail) (rest : List Char) :
    resolveIn routes (path ++ mark :: rest) = resolveIn routes path := by
  have hfind : routes.find? (·.takes (path ++ mark :: rest)) = routes.find? (·.takes path) :=
    List.find?_congr fun route hmem => takes_append_cons hpath (hmark route hmem) rest
  rw [resolveIn_eq, resolveIn_eq, hfind]

/-! ## The routing table -/

theorem table_apart : table.Pairwise Apart := by decide

theorem table_special : ∀ route ∈ table, route.behavior ≠ .ok := by decide

/-- No route has a second slash, a dot or a percent sign. -/
theorem table_plain : ∀ route ∈ table, ∀ mark ∈ ['/', '.', '%'],
    mark ∉ route.start.toList.tail := by
  have hplain : ∀ route ∈ table, ['/', '.', '%'].all (· ∉ route.start.toList.tail) = true := by
    decide
  intro route hmem mark hmark
  exact of_decide_eq_true (List.all_eq_true.1 (hplain route hmem) mark hmark)

/-- A route is looked for where a path starts, and nowhere behind a slash, a dot or a percent sign
that comes later. -/
theorem resolve_append_cons {path : List Char} (hpath : path ≠ []) {mark : Char}
    (hmark : mark ∈ ['/', '.', '%']) (rest : List Char) :
    resolve (path ++ mark :: rest) = resolve path :=
  resolveIn_append_cons hpath (fun route hmem => table_plain route hmem mark hmark) rest

/-- The order of the routing table does not matter. A path belongs to one of its routes at most; so
the first route that takes it is also the last one and the longest one, in every order of the table,
and its behavior is that of the path. A path is special exactly if its bytes start with those of a
route; then whatever follows it does not matter, while a proper part of a route is not special. -/
theorem resolve_order (path : List Char) :
    (table.filter (·.takes path)).length ≤ 1 ∧
    (∀ routes, routes.Perm table → resolveIn routes path = resolve path ∧
      resolveLast routes path = resolve path ∧ resolveLongest routes path = resolve path) ∧
    (∀ route ∈ table, route.takes path = true → resolve path = route.behavior) ∧
    (resolve path ≠ .ok ↔ ∃ route ∈ table, bytes route.start.toList <+: bytes path) ∧
    (resolve path ≠ .ok → ∀ suffix, resolve (path ++ suffix) = resolve path) ∧
    ∀ route ∈ table, ∀ part, part <+: route.start.toList → part ≠ route.start.toList →
      resolve part = .ok := by
  have hspecial : resolve path ≠ .ok ↔ ∃ route ∈ table, route.takes path = true :=
    resolveIn_ne_ok_iff table_apart table_special
  refine ⟨length_filter_takes table_apart path, fun routes hperm => ?_,
    fun route hmem htakes => resolveIn_of_takes table_apart hmem htakes, ?_, fun hne => ?_, ?_⟩
  · have hapart : routes.Pairwise Apart :=
      (hperm.pairwise_iff fun h => Std.Symm.symm _ _ h).2 table_apart
    have hfirst : resolveIn routes path = resolve path := resolveIn_perm table_apart hperm path
    exact ⟨hfirst, (resolveLast_eq hapart path).trans hfirst,
      (resolveLongest_eq hapart path).trans hfirst⟩
  · simp only [hspecial, takes_iff_bytes]
  · obtain ⟨route, hmem, htakes⟩ := hspecial.1 hne
    exact resolveIn_append table_apart hmem htakes
  · exact fun route hmem part hpart hproper => resolveIn_of_part table_apart hmem hpart hproper

end FaultyServer.Route

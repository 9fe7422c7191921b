import FaultyServer.Proofs.Settings.Exchange
import FaultyServer.Proofs.Settings.Positions
import FaultyServer.Proofs.Yaml.Json

/-!
# A value within a line of JSON

A line of JSON is taken apart into a value and the objects around it, each of them a `Frame` with
members before and after. If the value is exchanged for another one, the document of the line is
exchanged at the place of the value, but for the positions of what stands after it
(`Frame.exchanges_plug`).

For this the rest of the line has to be read in the same way again: a flow text is determined if it
is read as one node, but for positions. Words, strings and objects of such texts are.
-/

namespace FaultyServer.Yaml

open Decode (nameIn)

/-- The nodes that are read from a text do not differ but for positions. -/
def FlowText.IsDetermined (x : FlowText) : Prop :=
  ∀ n n', x.Holds n → x.Holds n' → n.unmarked = n'.unmarked

variable {x : Member} {xs : List Member} {es es' : List (Node × Node)}

/-- The entries of two rows of members are two rows. -/
theorem exists_of_holds_append {ys : List Member} (h : List.Forall₂ Member.Holds (xs ++ ys) es) :
    ∃ es₁ es₂, es = es₁ ++ es₂ ∧ List.Forall₂ Member.Holds xs es₁ ∧
      List.Forall₂ Member.Holds ys es₂ := by
  induction xs generalizing es with
  | nil => exact ⟨[], es, rfl, .nil, h⟩
  | cons x xs ih =>
    cases h with
    | @cons _ e _ es hx hes =>
      obtain ⟨es₁, es₂, rfl, h₁, h₂⟩ := ih hes
      exact ⟨e :: es₁, es₂, rfl, .cons hx h₁, h₂⟩

/-- Entries of members with determined values do not differ but for positions. -/
theorem unmarkedEntries_eq_of_holds (h : List.Forall₂ Member.Holds xs es)
    (h' : List.Forall₂ Member.Holds xs es') (hxs : ∀ x ∈ xs, x.value.IsDetermined) :
    Node.unmarkedEntries es = Node.unmarkedEntries es' := by
  induction h generalizing es' with
  | nil =>
    cases h'
    rfl
  | @cons x e xs es hx _ ih =>
    obtain ⟨hvalue, hxs⟩ := List.forall_mem_cons.mp hxs
    cases h' with
    | @cons _ e' _ es' hx' hes' =>
      obtain ⟨⟨mark, hkey⟩, hnode⟩ := hx
      obtain ⟨⟨mark', hkey'⟩, hnode'⟩ := hx'
      have hvalues := hvalue _ _ hnode hnode'
      obtain ⟨key, value⟩ := e
      obtain ⟨key', value'⟩ := e'
      subst hkey hkey'
      simp only [Node.unmarkedEntries, Node.unmarked, hvalues, ih hes' hxs]

namespace FlowText

theorem isDetermined_word (cs : List Char) (hne : cs ≠ []) (h : cs.all isWordChar = true) :
    (word cs hne h).IsDetermined := by
  rintro _ _ ⟨mark, rfl⟩ ⟨mark', rfl⟩
  rfl

theorem isDetermined_string (s : String) (h : s.toList.all Text.isPrintable = true) :
    (string s h).IsDetermined := by
  rintro _ _ ⟨mark, rfl⟩ ⟨mark', rfl⟩
  rfl

theorem isDetermined_object (h : ∀ y ∈ x :: xs, y.value.IsDetermined) :
    (object x xs).IsDetermined := by
  rintro _ _ ⟨es, mark, rfl, hes⟩ ⟨es', mark', rfl, hes'⟩
  simp only [Node.unmarked, unmarkedEntries_eq_of_holds hes hes' h]

end FlowText

/-- An object around the value of one of its members. -/
structure Frame where
  before : List Member
  name : String
  isPrintable : name.toList.all Text.isPrintable = true
  isShort : (Json.string name).length ≤ 1024
  after : List Member
  isDetermined : ∀ x ∈ before ++ after, x.value.IsDetermined

namespace Frame

/-- The member with this value. -/
def member (f : Frame) (value : FlowText) : Member := ⟨f.name, value, f.isPrintable, f.isShort⟩

/-- The object with this value in its place. -/
def object (f : Frame) (value : FlowText) : FlowText :=
  match f.before with
  | [] => .object (f.member value) f.after
  | x :: before => .object x (before ++ f.member value :: f.after)

/-- The value with these objects around it, the outermost first. -/
def plug : List Frame → FlowText → FlowText
  | [], value => value
  | f :: fs, value => f.object (plug fs value)

/-- The value with these objects around it, as a text of one line. -/
def line (fs : List Frame) (value : FlowText) : String := String.ofList (plug fs value).text

variable {f : Frame} {fs : List Frame} {value new : FlowText} {n n' : Node}

theorem holds_object (h : (f.object value).Holds n) : ∃ es mark, n = .mapping none es mark ∧
    List.Forall₂ Member.Holds (f.before ++ f.member value :: f.after) es := by
  rw [object] at h
  split at h
  · next hbefore => rwa [hbefore]
  · next hbefore => rwa [hbefore]

theorem ofText_object (f : Frame) (value : FlowText) :
    ∃ n, (f.object value).Holds n ∧
      Document.ofText (f.object value).text = .ok ⟨some n, []⟩ := by
  rw [object]
  split
  · exact FlowText.ofText_object _ _
  · exact FlowText.ofText_object _ _

/-- The entry of the value, between those of the other members. -/
theorem exists_entry (h : (f.object value).Holds n) : ∃ before key v after mark,
    n = .mapping none (before ++ (key, v) :: after) mark ∧ IsKey f.name key ∧ value.Holds v ∧
      List.Forall₂ Member.Holds f.before before ∧ List.Forall₂ Member.Holds f.after after := by
  obtain ⟨_, mark, rfl, hes⟩ := holds_object h
  obtain ⟨before, _, rfl, hbefore, hrest⟩ := exists_of_holds_append hes
  cases hrest with
  | @cons _ e _ after hentry hafter =>
    exact ⟨before, e.1, e.2, after, mark, rfl, hentry.1, hentry.2, hbefore, hafter⟩

/-- Where a word is exchanged for another value, the document of the line is exchanged at the place
of the word, but for the positions of what stands after it. -/
theorem exchanges_plug {doc : Document} {cs : List Char} {hne : cs ≠ []}
    {hcs : cs.all isWordChar = true} (h : (plug fs (.word cs hne hcs)).Holds n)
    (h' : (plug fs new).Holds n') : ∃ mark other n'',
      Node.Exchanges doc (.scalar none cs .plain mark) other (fs.map (·.name)) n n'' ∧
        n''.unmarked = n'.unmarked := by
  induction fs generalizing n n' with
  | nil =>
    obtain ⟨mark, rfl⟩ := h
    exact ⟨mark, n', n', .here rfl, rfl⟩
  | cons f fs ih =>
    obtain ⟨before, key, v, after, mark, rfl, ⟨m, rfl⟩, hv, hbefore, hafter⟩ := exists_entry h
    obtain ⟨before', _, v', after', mark', rfl, ⟨m', rfl⟩, hv', hbefore', hafter'⟩ :=
      exists_entry h'
    obtain ⟨place, other, v'', hexchanges, hunmarked⟩ := ih hv hv'
    refine ⟨place, other, _, .entry rfl (congrArg some String.ofList_toList) hexchanges, ?_⟩
    -- The members beside the value have been read twice, with the same result but for positions.
    have hb := unmarkedEntries_eq_of_holds hbefore hbefore'
      fun x hx => f.isDetermined x (List.mem_append_left _ hx)
    have ha := unmarkedEntries_eq_of_holds hafter hafter'
      fun x hx => f.isDetermined x (List.mem_append_right _ hx)
    rw [Node.unmarkedEntries_eq_map, Node.unmarkedEntries_eq_map] at hb ha
    simp only [Node.unmarked, Node.unmarkedEntries_eq_map, List.map_append, List.map_cons, hb, ha,
      Prod.map, hunmarked]

end Frame

end FaultyServer.Yaml

import FaultyServer.Yaml.Token

/-!
# YAML documents

A document is a tree of nodes. An alias stands for a node elsewhere in the document, possibly for
one that contains it, so it is a leaf with a number and the document keeps the numbered nodes.
-/

namespace FaultyServer.Yaml

/-- A node of a document, with its tag and the position where it begins. -/
inductive Node
  | scalar (tag : Option TagBytes) (text : List Char) (style : ScalarStyle) (mark : Mark)
  | sequence (tag : Option TagBytes) (items : List Node) (mark : Mark)
  | mapping (tag : Option TagBytes) (entries : List (Node × Node)) (mark : Mark)
  | reference (id : Nat) (mark : Mark)

namespace Node

/-- What stands where a node is missing. -/
def empty (mark : Mark) : Node := .scalar none [] .plain mark

/-- Where a node begins. -/
def mark : Node → Mark
  | scalar _ _ _ mark | sequence _ _ mark | mapping _ _ mark | reference _ mark => mark

end Node

mutual

/-- Two nodes can be compared part by part. -/
def Node.decEq : (a b : Node) → Decidable (a = b)
  | .scalar tag text style mark, .scalar tag' text' style' mark' =>
    decidable_of_iff (tag = tag' ∧ text = text' ∧ style = style' ∧ mark = mark') (by simp)
  | .sequence tag items mark, .sequence tag' items' mark' =>
    have := decEqItems items items'
    decidable_of_iff (tag = tag' ∧ items = items' ∧ mark = mark') (by simp)
  | .mapping tag entries mark, .mapping tag' entries' mark' =>
    have := decEqEntries entries entries'
    decidable_of_iff (tag = tag' ∧ entries = entries' ∧ mark = mark') (by simp)
  | .reference id mark, .reference id' mark' =>
    decidable_of_iff (id = id' ∧ mark = mark') (by simp)
  | .scalar .., .sequence .. | .scalar .., .mapping .. | .scalar .., .reference ..
  | .sequence .., .scalar .. | .sequence .., .mapping .. | .sequence .., .reference ..
  | .mapping .., .scalar .. | .mapping .., .sequence .. | .mapping .., .reference ..
  | .reference .., .scalar .. | .reference .., .sequence .. | .reference .., .mapping .. =>
    isFalse nofun

/-- The items of two sequences can be compared. -/
def decEqItems : (items items' : List Node) → Decidable (items = items')
  | [], [] => isTrue rfl
  | item :: rest, item' :: rest' =>
    have := item.decEq item'
    have := decEqItems rest rest'
    decidable_of_iff (item = item' ∧ rest = rest') (by simp)
  | [], _ :: _ | _ :: _, [] => isFalse nofun

/-- The entries of two mappings can be compared. -/
def decEqEntries : (entries entries' : List (Node × Node)) → Decidable (entries = entries')
  | [], [] => isTrue rfl
  | (key, value) :: rest, (key', value') :: rest' =>
    have := key.decEq key'
    have := value.decEq value'
    have := decEqEntries rest rest'
    decidable_of_iff (key = key' ∧ value = value' ∧ rest = rest') (by simp [and_assoc])
  | [], _ :: _ | _ :: _, [] => isFalse nofun

end

instance : DecidableEq Node := Node.decEq

/-- A node with an anchor: its number, and how many anchored nodes begin before it. -/
structure Anchored where
  id : Nat
  order : Nat
  node : Node
  deriving DecidableEq

/-- The anchored node that begins last, of the last one so far and another. -/
def Anchored.last (latest : Option Anchored) (a : Anchored) : Option Anchored :=
  match latest with
  | some b => if b.order < a.order then some a else some b
  | none => some a

/-- A document: its root, unless the text holds no document at all, and its anchored nodes. -/
structure Document where
  root : Option Node
  anchored : List Anchored
  deriving DecidableEq

namespace Document

/-- The node that an alias of this number stands for: the last one to begin with the number. -/
def target? (doc : Document) (id : Nat) : Option Node :=
  ((doc.anchored.filter (·.id == id)).foldl Anchored.last none).map (·.node)

/-- The node itself, or what it stands for if it is an alias. -/
def follow (doc : Document) : Node → Node
  | .reference id mark => (doc.target? id).getD (.empty mark)
  | node => node

end Document

end FaultyServer.Yaml

import SuffixPattern.Ranked

/-!
# SuffixPattern.Forest

Labelled trees in first-child, next-sibling form: a forest is the list of the edges that leave a
node, each with its key, whether a word ends at the node below it, and the forest that hangs there.
A `Node` is a forest together with the mark of the node it hangs from.

Keys of siblings are kept in ascending order by `insert` and `place`; the counting and enumerating
functions ask for no order.
-/

namespace SuffixPattern

inductive Forest (κ : Type) where
  | nil
  | cons (key : κ) (terminal : Bool) (below rest : Forest κ)
  deriving DecidableEq, Repr, Inhabited

structure Node (κ : Type) where
  terminal : Bool := false
  children : Forest κ := .nil
  deriving DecidableEq, Repr, Inhabited

namespace Forest

variable {κ : Type}

def isNil : Forest κ → Bool
  | .nil => true
  | .cons .. => false

/-- The paths that end at a marked node, in the order of a walk down from the left. -/
def words : Forest κ → List (List κ)
  | .nil => []
  | .cons k t below rest =>
    (if t then [[k]] else []) ++ below.words.map (k :: ·) ++ rest.words

/-- Number of edges, which is the number of nodes below the root. -/
def size : Forest κ → Nat
  | .nil => 0
  | .cons _ _ below rest => 1 + below.size + rest.size

/-- Number of marked nodes below the root. -/
def terminals : Forest κ → Nat
  | .nil => 0
  | .cons _ t below rest => t.toNat + below.terminals + rest.terminals

/-- The node at the end of the edge with the given key. -/
def child? [DecidableEq κ] (k : κ) : Forest κ → Option (Node κ)
  | .nil => none
  | .cons k' t below rest => if k' = k then some ⟨t, below⟩ else child? k rest

/-! ## Changes -/

variable [Ranked κ]

/-- Puts a subtree at its place among the siblings, instead of one with the same key. -/
def place (k : κ) (n : Node κ) : Forest κ → Forest κ
  | .nil => .cons k n.terminal n.children .nil
  | .cons k' t below rest =>
    if Ranked.before k k' then .cons k n.terminal n.children (.cons k' t below rest)
    else if Ranked.before k' k then .cons k' t below (place k n rest)
    else .cons k n.terminal n.children rest

def erase [DecidableEq κ] (k : κ) : Forest κ → Forest κ
  | .nil => .nil
  | .cons k' t below rest => if k' = k then rest else .cons k' t below (erase k rest)

/-- A forest with a single path, which is marked at its end. -/
def path : List κ → Forest κ
  | [] => .nil
  | k :: ks => .cons k ks.isEmpty (path ks) .nil

/-- Follows a word down, adding the nodes that are missing, and marks the node where it ends. The
empty word ends at the root, which is not part of the forest. -/
def insert : Forest κ → List κ → Forest κ
  | f, [] => f
  | .nil, k :: ks => path (k :: ks)
  | .cons k' t below rest, k :: ks =>
    if Ranked.before k k' then .cons k ks.isEmpty (path ks) (.cons k' t below rest)
    else if Ranked.before k' k then .cons k' t below (rest.insert (k :: ks))
    else .cons k' (t || ks.isEmpty) (below.insert ks) rest

end Forest

namespace Node

variable {κ : Type}

def isLeaf (n : Node κ) : Bool := n.children.isNil

def words (n : Node κ) : List (List κ) :=
  (if n.terminal then [[]] else []) ++ n.children.words

/-- Number of nodes, this one included. -/
def size (n : Node κ) : Nat := 1 + n.children.size

/-- Number of marked nodes, this one included. -/
def terminals (n : Node κ) : Nat := n.terminal.toNat + n.children.terminals

/-- The node at the end of a path. -/
def at? [DecidableEq κ] (n : Node κ) : List κ → Option (Node κ)
  | [] => some n
  | k :: ks => (n.children.child? k).bind fun c => c.at? ks

variable [Ranked κ]

def insert (n : Node κ) (word : List κ) : Node κ :=
  ⟨n.terminal || word.isEmpty, n.children.insert word⟩

def erase [DecidableEq κ] (k : κ) (n : Node κ) : Node κ :=
  ⟨n.terminal, n.children.erase k⟩

/-- Replaces the node at the end of a path, if there is one. -/
def updateAt? [DecidableEq κ] (n : Node κ) (change : Node κ → Node κ) :
    List κ → Option (Node κ)
  | [] => some (change n)
  | k :: ks =>
    (n.children.child? k).bind fun c =>
      (c.updateAt? change ks).map fun c => ⟨n.terminal, n.children.place k c⟩

end Node
end SuffixPattern

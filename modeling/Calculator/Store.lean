import Calculator.Parser
import Calculator.Tree.Simplify

/-!
Trees in a store of nodes, where each node is a cell and links to others by their numbers. Nodes are
added, unlinked and linked anew in place, and a node that is released keeps no link. A link leads to
an older cell; a link to any other counts as absent, so that every way down comes to an end.
-/

namespace Calculator

abbrev Link := Option Nat

inductive Cell where
  | leaf (leaf : Leaf)
  | node (operator : Operator) (left right : Link)
deriving DecidableEq, Repr, Inhabited

structure Store where
  cells : Array Cell
deriving DecidableEq, Repr, Inhabited

namespace Store

def empty : Store := ⟨#[]⟩

def add (cell : Cell) (store : Store) : Link × Store :=
  (some store.cells.size, ⟨store.cells.push cell⟩)

def set (store : Store) (i : Nat) (cell : Cell) : Store := ⟨store.cells.setIfInBounds i cell⟩

def below (i : Nat) (link : Link) : Option { j : Nat // j < i } :=
  link.bind fun j => if h : j < i then some ⟨j, h⟩ else none

def readCell (store : Store) (i : Nat) : Tree :=
  match store.cells[i]? with
  | none => .absent
  | some (.leaf l) => .leaf l
  | some (.node o left right) =>
    .node o
      (match below i left with
        | some ⟨j, _⟩ => store.readCell j
        | none => .absent)
      (match below i right with
        | some ⟨j, _⟩ => store.readCell j
        | none => .absent)
termination_by i

def read (store : Store) : Link → Tree
  | some i => store.readCell i
  | none => .absent

def unlink (store : Store) (i : Nat) : Store :=
  match store.cells[i]? with
  | some (.node o _ _) => store.set i (.node o none none)
  | _ => store

def releaseCell (store : Store) (i : Nat) : Store :=
  match store.cells[i]? with
  | some (.node _ left right) =>
    let store :=
      match below i left with
      | some ⟨j, _⟩ => store.releaseCell j
      | none => store
    let store :=
      match below i right with
      | some ⟨j, _⟩ => store.releaseCell j
      | none => store
    store.unlink i
  | _ => store
termination_by i

def release (store : Store) : Link → Store
  | some i => store.releaseCell i
  | none => store

def builder : Builder (StateM Store) Link where
  number value position := modifyGet (add (.leaf (.number value position)))
  identifier name position := modifyGet (add (.leaf (.identifier name position)))
  operator o left right := modifyGet (add (.node o left right))
  discard link := modify (·.release link)

def parse (tokens : List Token) : Except Failure Link × Store :=
  ((builder.whole maxNesting tokens).run empty).run

def parseFirst (tokens : List Token) : Except Failure (Link × List Token) × Store :=
  let (result, store) := ((builder.expression maxNesting tokens).run empty).run
  (result.map fun parsed => (parsed.value, parsed.rest), store)

def loadLeaf : Leaf → StateM Store Link
  | .absent => pure none
  | l => modifyGet (add (.leaf l))

def load (tree : Tree) : StateM Store Link :=
  tree.walkM loadLeaf fun o _ _ left right => modifyGet (add (.node o left right))

def links (store : Store) (i : Nat) : Link × Link :=
  match store.cells[i]? with
  | some (.node _ left right) => (left, right)
  | _ => (none, none)

def removeSubtree (store : Store) (i : Nat) (side : Side) : Link × Store :=
  let (left, right) := store.links i
  (side.pick left right, (store.unlink i).release (side.other.pick left right))

def literal? (store : Store) (link : Link) : Option Int :=
  match link.bind (store.cells[·]?) with
  | some (.leaf l) => (Tree.leaf l).literal?
  | _ => none

def simplifyNode (store : Store) (i : Nat) (o : Operator) (left right : Link) : Link × Store :=
  let store := store.set i (.node o left right)
  match keptSide? o.symbol (store.literal? left) (store.literal? right) with
  | some side => store.removeSubtree i side
  | none => (some i, store)

def simplifyCell (store : Store) (i : Nat) : Link × Store :=
  match store.cells[i]? with
  | some (.node o left right) =>
    let (left, store) :=
      match below i left with
      | some ⟨j, _⟩ => store.simplifyCell j
      | none => (none, store)
    let (right, store) :=
      match below i right with
      | some ⟨j, _⟩ => store.simplifyCell j
      | none => (none, store)
    store.simplifyNode i o left right
  | _ => (some i, store)
termination_by i

def simplify (store : Store) : Link → Link × Store
  | some i => store.simplifyCell i
  | none => (none, store)

def nodeRemovals (store : Store) (i : Nat) (o : Operator) (left right : Link) : List Removal :=
  let store := store.set i (.node o left right)
  match keptSide? o.symbol (store.literal? left) (store.literal? right) with
  | some side => [⟨store.readCell i, store.read (side.pick left right)⟩]
  | none => []

def removalsCell (store : Store) (i : Nat) : List Removal :=
  match store.cells[i]? with
  | some (.node o left right) =>
    let (first, middle) :=
      match below i left with
      | some ⟨j, _⟩ => store.simplifyCell j
      | none => (none, store)
    let (second, last) :=
      match below i right with
      | some ⟨j, _⟩ => middle.simplifyCell j
      | none => (none, middle)
    (match below i left with
      | some ⟨j, _⟩ => store.removalsCell j
      | none => []) ++
    (match below i right with
      | some ⟨j, _⟩ => middle.removalsCell j
      | none => []) ++
    last.nodeRemovals i o first second
  | _ => []
termination_by i

def removals (store : Store) : Link → List Removal
  | some i => store.removalsCell i
  | none => []

def preorderCell (store : Store) (i : Nat) : List Nat :=
  match store.cells[i]? with
  | some (.node _ left right) =>
    i :: (match below i left with
      | some ⟨j, _⟩ => store.preorderCell j
      | none => []) ++
    (match below i right with
      | some ⟨j, _⟩ => store.preorderCell j
      | none => [])
  | some (.leaf _) => [i]
  | none => []
termination_by i

def preorder (store : Store) : Link → List Nat
  | some i => store.preorderCell i
  | none => []

theorem load_leaf (l : Leaf) : load (.leaf l) = loadLeaf l := by
  rw [load, Tree.walkM_eq_foldM, Tree.foldM]

theorem load_node (o : Operator) (left right : Tree) : load (.node o left right) =
    (load left >>= fun first => load right >>= fun second =>
      modifyGet (add (.node o first second))) := by
  simp only [load, Tree.walkM_eq_foldM, Tree.foldM]

section Node

variable {store : Store} {i : Nat} {o : Operator} {left right : Link}

theorem below_eq {link : Link} (h : ∀ j ∈ link, j < i) : (below i link).map Subtype.val = link := by
  cases link with
  | none => rfl
  | some j => simp only [below, Option.bind_some, dif_pos (h j rfl), Option.map_some]

theorem readCell_node (h : store.cells[i]? = some (.node o left right)) :
    store.readCell i = .node o (store.read ((below i left).map Subtype.val))
      (store.read ((below i right).map Subtype.val)) := by
  rw [readCell, h]
  dsimp only
  cases below i left <;> cases below i right <;> rfl

theorem releaseCell_node (h : store.cells[i]? = some (.node o left right)) :
    store.releaseCell i = ((store.release ((below i left).map Subtype.val)).release
      ((below i right).map Subtype.val)).unlink i := by
  rw [releaseCell, h]
  dsimp only
  cases below i left <;> cases below i right <;> rfl

theorem simplifyCell_node (h : store.cells[i]? = some (.node o left right)) :
    store.simplifyCell i =
      let first := store.simplify ((below i left).map Subtype.val)
      let second := first.2.simplify ((below i right).map Subtype.val)
      second.2.simplifyNode i o first.1 second.1 := by
  rw [simplifyCell, h]
  dsimp only
  cases below i left <;> cases below i right <;> rfl

theorem removalsCell_node (h : store.cells[i]? = some (.node o left right)) :
    store.removalsCell i =
      let first := store.simplify ((below i left).map Subtype.val)
      let second := first.2.simplify ((below i right).map Subtype.val)
      store.removals ((below i left).map Subtype.val) ++
        first.2.removals ((below i right).map Subtype.val) ++
        second.2.nodeRemovals i o first.1 second.1 := by
  rw [removalsCell, h]
  dsimp only
  cases below i left <;> cases below i right <;> rfl

theorem preorderCell_node (h : store.cells[i]? = some (.node o left right)) :
    store.preorderCell i = i :: (store.preorder ((below i left).map Subtype.val) ++
      store.preorder ((below i right).map Subtype.val)) := by
  rw [preorderCell, h]
  dsimp only
  cases below i left <;> cases below i right <;> rfl

end Node

theorem link_induction {motive : Store → Link → Prop} (absent : ∀ store, motive store none)
    (outside : ∀ {store i}, store.cells[i]? = none → motive store (some i))
    (leaf : ∀ {store i l}, store.cells[i]? = some (.leaf l) → motive store (some i))
    (node : ∀ {store i o left right}, store.cells[i]? = some (.node o left right) →
      (∀ store', motive store' ((below i left).map Subtype.val)) →
      (∀ store', motive store' ((below i right).map Subtype.val)) → motive store (some i))
    (store : Store) (link : Link) : motive store link := by
  have cell (i : Nat) : ∀ store, motive store (some i) := by
    induction i using Nat.strongRecOn with
    | _ i ih =>
    intro store
    have operand (link : Link) (store' : Store) :
        motive store' ((below i link).map Subtype.val) := by
      cases below i link with
      | none => exact absent store'
      | some j => exact ih j j.property store'
    cases hc : store.cells[i]? with
    | none => exact outside hc
    | some cell =>
      cases cell with
      | leaf l => exact leaf hc
      | node o left right => exact node hc (operand left) (operand right)
  cases link with
  | none => exact absent store
  | some i => exact cell i store

end Store

end Calculator

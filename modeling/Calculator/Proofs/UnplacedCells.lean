import Calculator.Proofs.Alike
import Calculator.Store

namespace Calculator

def Cell.unplaced : Cell → Cell
  | .leaf l => .leaf l.unplaced
  | .node o left right => .node o.unplaced left right

namespace Store

variable {store : Store} {i : Nat} {o : Operator} {left right : Link}

def unplaced (store : Store) : Store := ⟨store.cells.map Cell.unplaced⟩

theorem empty_unplaced : empty.unplaced = empty := congrArg Store.mk Array.map_empty

theorem cell_unplaced (store : Store) (i : Nat) :
    store.unplaced.cells[i]? = store.cells[i]?.map Cell.unplaced :=
  Array.getElem?_map

theorem cell_unplaced_of_some {cell : Cell} (h : store.cells[i]? = some cell) :
    store.unplaced.cells[i]? = some cell.unplaced := by
  rw [cell_unplaced, h, Option.map_some]

theorem set_unplaced (store : Store) (i : Nat) (cell : Cell) :
    store.unplaced.set i cell.unplaced = (store.set i cell).unplaced :=
  congrArg Store.mk Array.map_setIfInBounds.symm

theorem add_unplaced (store : Store) (cell : Cell) : add cell.unplaced store.unplaced =
    ((add cell store).1, (add cell store).2.unplaced) := by
  simp only [add, unplaced, Array.size_map, Array.map_push]

theorem unlink_unplaced (store : Store) (i : Nat) :
    store.unplaced.unlink i = (store.unlink i).unplaced := by
  rw [unlink, unlink, cell_unplaced]
  cases store.cells[i]? with
  | none => rfl
  | some cell =>
    cases cell with
    | leaf l => rfl
    | node o left right => exact set_unplaced store i (.node o none none)

theorem release_unplaced (store : Store) (link : Link) :
    store.unplaced.release link = (store.release link).unplaced := by
  induction store, link using link_induction with
  | absent => rfl
  | @outside store i hc =>
    rw [release, release, releaseCell, releaseCell, cell_unplaced, hc]
    rfl
  | @leaf store i l hc =>
    rw [release, release, releaseCell, releaseCell, cell_unplaced, hc]
    rfl
  | @node store i o left right hc ihl ihr =>
    rw [release, release, releaseCell_node hc, releaseCell_node (cell_unplaced_of_some hc), ihl,
      ihr, unlink_unplaced]

theorem links_unplaced (store : Store) (i : Nat) : store.unplaced.links i = store.links i := by
  rw [links, links, cell_unplaced]
  cases store.cells[i]? with
  | none => rfl
  | some cell => cases cell <;> rfl

theorem literal?_unplaced (store : Store) (link : Link) :
    store.unplaced.literal? link = store.literal? link := by
  cases link with
  | none => rfl
  | some i =>
    simp only [literal?, Option.bind_some, cell_unplaced]
    cases store.cells[i]? with
    | none => rfl
    | some cell =>
      cases cell with
      | leaf l => exact Tree.literal?_unplaced (.leaf l)
      | node o left right => rfl

theorem removeSubtree_unplaced (store : Store) (i : Nat) (side : Side) :
    store.unplaced.removeSubtree i side =
      ((store.removeSubtree i side).1, (store.removeSubtree i side).2.unplaced) := by
  simp only [removeSubtree, links_unplaced, unlink_unplaced, release_unplaced]

theorem simplifyNode_unplaced (store : Store) (i : Nat) (o : Operator) (left right : Link) :
    store.unplaced.simplifyNode i o.unplaced left right =
      ((store.simplifyNode i o left right).1, (store.simplifyNode i o left right).2.unplaced) := by
  have hset := set_unplaced store i (.node o left right)
  have hs : o.unplaced.symbol = o.symbol := rfl
  simp only [Cell.unplaced] at hset
  simp only [simplifyNode, hset, literal?_unplaced, hs]
  cases keptSide? o.symbol ((store.set i (.node o left right)).literal? left)
      ((store.set i (.node o left right)).literal? right) with
  | none => rfl
  | some side => exact removeSubtree_unplaced _ i side

theorem simplify_unplaced (store : Store) (link : Link) : store.unplaced.simplify link =
    ((store.simplify link).1, (store.simplify link).2.unplaced) := by
  induction store, link using link_induction with
  | absent => rfl
  | @outside store i hc =>
    rw [simplify, simplify, simplifyCell, simplifyCell, cell_unplaced, hc]
    rfl
  | @leaf store i l hc =>
    rw [simplify, simplify, simplifyCell, simplifyCell, cell_unplaced, hc]
    rfl
  | @node store i o left right hc ihl ihr =>
    rw [simplify, simplify, simplifyCell_node hc, simplifyCell_node (cell_unplaced_of_some hc)]
    simp only [ihl, ihr, simplifyNode_unplaced]

theorem load_unplaced (tree : Tree) (store : Store) :
    ((load tree.unplaced).run store.unplaced).run =
      (((load tree).run store).run.1, ((load tree).run store).run.2.unplaced) := by
  induction tree generalizing store with
  | leaf l =>
    rw [Tree.unplaced, load_leaf, load_leaf]
    cases l with
    | absent => rfl
    | number value place => exact add_unplaced store (.leaf (.number value place))
    | identifier name place => exact add_unplaced store (.leaf (.identifier name place))
  | node o left right ihl ihr =>
    simp only [Tree.unplaced, load_node, StateT.run_bind, Id.run_bind, ihl, ihr]
    exact add_unplaced _ (.node o _ _)

end Store

end Calculator

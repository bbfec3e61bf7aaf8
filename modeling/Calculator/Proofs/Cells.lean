import Calculator.Proofs.Owned

namespace Calculator.Store

inductive Holds (store : Store) : Nat → Nat → Nat → Tree → Prop
  | leaf {low high i : Nat} {l : Leaf} (above : low ≤ i) (under : i < high)
      (cell : store.cells[i]? = some (.leaf l)) : Holds store low high i (.leaf l)
  | node {low middle high i j k : Nat} {o : Operator} {left right : Tree} (under : i < high)
      (cell : store.cells[i]? = some (.node o (some j) (some k)))
      (lower : Holds store low middle j left) (upper : Holds store middle i k right) :
      Holds store low high i (.node o left right)

def Confined (store store' : Store) (low high : Nat) : Prop :=
  ∀ i, i < low ∨ high ≤ i → store'.cells[i]? = store.cells[i]?

variable {store store' : Store} {low high low' high' i : Nat} {t : Tree}

namespace Holds

theorem bounds (h : Holds store low high i t) : low ≤ i ∧ i < high := by
  induction h with
  | leaf above under => exact ⟨above, under⟩
  | node under _ _ _ ihl ihr => exact ⟨by omega, under⟩

theorem apart (h : Holds store low high i t) (hc : Confined store store' low' high')
    (ha : high ≤ low' ∨ high' ≤ low) : Holds store' low high i t := by
  induction h with
  | @leaf low high i l above under cell =>
    exact .leaf above under ((hc i (by omega)).trans cell)
  | @node low middle high i j k o left right under cell lower upper ihl ihr =>
    have hl := lower.bounds
    have hr := upper.bounds
    exact .node under ((hc i (by omega)).trans cell) (ihl (by omega)) (ihr (by omega))

theorem owns (h : Holds store low high i t) :
    ∃ cells, Owns store (some i) cells t ∧ ∀ j ∈ cells, low ≤ j ∧ j < high := by
  induction h with
  | @leaf low high i l above under cell =>
    exact ⟨[i], .leaf cell, List.forall_mem_singleton.mpr ⟨above, under⟩⟩
  | @node low middle high i j k o left right under cell lower upper ihl ihr =>
    obtain ⟨lefts, ownsl, hlefts⟩ := ihl
    obtain ⟨rights, ownsr, hrights⟩ := ihr
    have hl := lower.bounds
    have hr := upper.bounds
    have older : ∀ m ∈ lefts ++ rights, m < i := by
      refine List.forall_mem_append.mpr ⟨fun m hm => ?_, fun m hm => (hrights m hm).2⟩
      have := hlefts m hm
      omega
    have apart : lefts.Disjoint rights := by
      intro m hm hm'
      have := hlefts m hm
      have := hrights m hm'
      omega
    refine ⟨_, .node cell ownsl ownsr older apart, List.forall_mem_cons.mpr ⟨by omega, ?_⟩⟩
    refine List.forall_mem_append.mpr ⟨fun m hm => ?_, fun m hm => ?_⟩
    · have := hlefts m hm
      omega
    · have := hrights m hm
      omega

end Holds

end Calculator.Store

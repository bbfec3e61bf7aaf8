import Calculator.Proofs.Redexes

/-!
Trees in the place of identifiers. What is put in may be simplified before or after, as long as it does
not simplify to a literal zero or one, which is all that the rules look for. So names can be changed,
also to one another, and numbers put in for them, and the same removals are made of the same operators.
-/

namespace Calculator.Tree

def substitute (image : String → Position → Tree) : Tree → Tree
  | leaf (.identifier name place) => image name place
  | leaf l => leaf l
  | node o left right => node o (left.substitute image) (right.substitute image)

def replace (t : Tree) (name : String) (u : Tree) : Tree :=
  t.substitute fun name' place => if name' = name then u else identifier name' place

def rename (f : String → String) : Tree → Tree := substitute fun name => identifier (f name)

def Inert (t : Tree) : Prop := t.literal? ≠ some 0 ∧ t.literal? ≠ some 1

variable {t u : Tree} {image : String → Position → Tree} {name : String} {value : Int}

theorem Inert.ne (h : t.Inert) (hv : value = 0 ∨ value = 1) : t.literal? ≠ some value := by
  rcases hv with rfl | rfl
  · exact h.1
  · exact h.2

theorem inert_identifier (name : String) (place : Position) : (identifier name place).Inert :=
  ⟨nofun, nofun⟩

theorem inert_number (h0 : value ≠ 0) (h1 : value ≠ 1) (place : Position) :
    (number value place).Inert :=
  ⟨fun h => h0 (Option.some.inj h), fun h => h1 (Option.some.inj h)⟩

theorem literal?_substitute (h : ∀ name place, (image name place).Inert) (t : Tree)
    (hv : value = 0 ∨ value = 1) :
    (t.substitute image).literal? = some value ↔ t.literal? = some value := by
  rcases t with l | _
  · cases l with
    | identifier name place => exact iff_of_false ((h name place).ne hv) nofun
    | absent => exact Iff.rfl
    | number value' place => exact Iff.rfl
  · exact Iff.rfl

theorem keepsRules_substitute (h : ∀ name place, (image name place).Inert) :
    KeepsRules (substitute image) id where
  node_eq _ _ _ := rfl
  rule_eq _ left right := keptSide?_congr (fun _ => literal?_substitute h left)
    (fun _ => literal?_substitute h right)

theorem simplify_substitute (h : ∀ name place, (image name place).simplify.Inert) (t : Tree) :
    (t.substitute image).simplify =
      t.simplify.substitute fun name place => (image name place).simplify := by
  refine (keepsRules_substitute h).simplify_eq (fun _ _ _ => rfl) (fun l => ?_) t
  cases l with
  | identifier name place => rfl
  | absent => exact simplify_leaf _
  | number value place => exact simplify_leaf _

theorem removals_substitute (h : ∀ name place, (image name place).Inert)
    (hn : ∀ name place, (image name place).Normal) (t : Tree) :
    (t.substitute image).removals = t.removals.map (Removal.map (substitute image)) := by
  have normal (l : Leaf) : ((leaf l).substitute image).Normal := by
    cases l with
    | identifier name place => exact hn name place
    | absent => exact normal_leaf _
    | number value place => exact normal_leaf _
  exact (keepsRules_substitute h).removals_eq (fun l => (normal l).simplify_eq)
    (fun l => removals_eq_nil_iff.mpr (normal l)) t

theorem simplify_replace (h : u.simplify.Inert) (name : String) (t : Tree) :
    (t.replace name u).simplify = t.simplify.replace name u.simplify := by
  have hs (name' : String) (place : Position) :
      (if name' = name then u else identifier name' place).simplify =
        if name' = name then u.simplify else identifier name' place := by
    split
    · rfl
    · exact simplify_leaf _
  have hi (name' : String) (place : Position) :
      (if name' = name then u else identifier name' place).simplify.Inert := by
    rw [hs]
    split
    · exact h
    · exact inert_identifier name' place
  rw [replace, simplify_substitute hi]
  simp only [hs]
  rfl

theorem inert_of_simplify_replace (h : ∀ (t : Tree) name,
    (t.replace name u).simplify = t.simplify.replace name u.simplify) : u.simplify.Inert := by
  have hk : (contract ⟨"*", .start⟩ (identifier "x" .start) (identifier "y" .start)).1 =
      node ⟨"*", .start⟩ (identifier "x" .start) (identifier "y" .start) :=
    contract_of_none (by decide)
  have hp := h (node ⟨"*", .start⟩ (identifier "x" .start) (identifier "y" .start)) "x"
  simp only [replace, substitute, simplify_node, simplify_leaf, hk, if_true,
    if_neg (show "y" ≠ "x" by decide)] at hp
  constructor
  · intro hv
    obtain ⟨place, hu⟩ := eq_number_of_literal? hv
    rw [hu] at hp
    cases hp
  · intro hv
    obtain ⟨place, hu⟩ := eq_number_of_literal? hv
    rw [hu] at hp
    cases hp

theorem substitute_normal (h : ∀ name place, (image name place).Inert)
    (hn : ∀ name place, (image name place).Normal) (t : Tree) :
    (t.substitute image).simplify = t.simplify.substitute image ∧
      (t.substitute image).removals = t.removals.map (Removal.map (substitute image)) := by
  have hs (name : String) (place : Position) : (image name place).simplify = image name place :=
    (hn name place).simplify_eq
  refine ⟨?_, removals_substitute h hn t⟩
  rw [simplify_substitute fun name place => (hs name place).symm ▸ h name place]
  simp only [hs]

open Store

theorem simplify_commutes_with_replacement :
    (∀ u : Tree, u.simplify.Inert ↔
      ∀ (t : Tree) name, (t.replace name u).simplify = t.simplify.replace name u.simplify) ∧
    (∀ (t u : Tree) name store link cells, u.simplify.Inert →
      Owns store link cells (t.replace name u) →
      (store.simplify link).2.read (store.simplify link).1 = t.simplify.replace name u.simplify) ∧
    (∀ (t : Tree) f, (t.rename f).simplify = t.simplify.rename f ∧
      (t.rename f).removals = t.removals.map (Removal.map (rename f))) ∧
    ∀ (t : Tree) name value place, value ≠ 0 → value ≠ 1 →
      (t.replace name (number value place)).simplify =
        t.simplify.replace name (number value place) ∧
      (t.replace name (number value place)).removals =
        t.removals.map (Removal.map fun t => t.replace name (number value place)) := by
  refine ⟨fun u => ⟨fun h t name => simplify_replace h name t, inert_of_simplify_replace⟩, ?_, ?_,
    ?_⟩
  · intro t u name store link cells hu h
    obtain ⟨kept, reduced⟩ := simplify_reduced h
    exact reduced.owns.read_eq.trans (simplify_replace hu name t)
  · intro t f
    exact substitute_normal (fun name => inert_identifier (f name)) (fun _ _ => normal_leaf _) t
  · intro t name value place h0 h1
    refine substitute_normal (fun name' place' => ?_) (fun name' place' => ?_) t
    · split
      · exact inert_number h0 h1 place
      · exact inert_identifier name' place'
    · split <;> exact normal_leaf _

def sevenMinusZero : Tree := node ⟨"-", ⟨1, 3⟩⟩ (number 7 ⟨1, 1⟩) (number 0 ⟨1, 5⟩)

theorem hiddenRedex_goes_around_replacement :
    let loaded := ((load (hiddenRedex.replace "x" sevenMinusZero)).run .empty).run
    let simplified := loaded.2.simplify loaded.1
    (hiddenRedex.replace "x" sevenMinusZero).simplify = number 7 ⟨1, 1⟩ ∧
      simplified.2.read simplified.1 = number 7 ⟨1, 1⟩ ∧
      (hiddenRedex.rename fun _ => "y").removals.map Removal.log =
        ["remove: (0 + 1) -> 1", "remove: (1 * y) -> y"] ∧
      (hiddenRedex.replace "x" (number 5 .start)).removals.map Removal.log =
        ["remove: (0 + 1) -> 1", "remove: (1 * 5) -> 5"] := by
  have hu : sevenMinusZero.simplify = number 7 ⟨1, 1⟩ := by decide +kernel
  have hi : sevenMinusZero.simplify.Inert := by
    rw [hu]
    exact inert_number (by decide) (by decide) _
  have ht : hiddenRedex.simplify.replace "x" sevenMinusZero.simplify = number 7 ⟨1, 1⟩ := by
    decide +kernel
  obtain ⟨hreplace, hstore, hrename, hnumber⟩ := simplify_commutes_with_replacement
  obtain ⟨cells, owns, -⟩ := load_owns (hiddenRedex.replace "x" sevenMinusZero) .empty
  refine ⟨((hreplace _).mp hi _ _).trans ht, (hstore _ _ _ _ _ _ hi owns).trans ht, ?_, ?_⟩
  · rw [(hrename _ _).2]
    decide +kernel
  · rw [(hnumber _ _ _ _ (by decide) (by decide)).2]
    decide +kernel

end Calculator.Tree

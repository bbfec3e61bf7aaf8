import Calculator.Proofs.Walks

/-!
Writing a tree turn by turn. A turn takes the piece on top of a stack: a text comes out, an operator
leaves five pieces in its place, a leaf gives its text and an absent one nothing. Up to any turn,
what has come out and what is still on the stack are together the fragments of the tree, and the
stack comes to its end. The same loop writes nodes of any kind as the recursion does, whatever
becomes of a text that comes out.
-/

namespace Calculator

def Tree.turns : Tree → Nat
  | .leaf _ => 1
  | .node _ left right => left.turns + right.turns + 4

namespace Piece

def turn? : List Piece → Option (Option String × List Piece)
  | [] => none
  | text s :: stack => some (some s, stack)
  | tree (.leaf l) :: stack => some (l.text?, stack)
  | tree (.node o left right) :: stack =>
    some (none, text "(" :: tree left :: text o.spaced :: tree right :: text ")" :: stack)

inductive Turns : Nat → List Piece → List String → List Piece → Prop
  | none (stack : List Piece) : Turns 0 stack [] stack
  | silent {k : Nat} {stack rest last : List Piece} {texts : List String}
      (turn : turn? stack = some (none, rest)) (further : Turns k rest texts last) :
      Turns (k + 1) stack texts last
  | text {k : Nat} {stack rest last : List Piece} {s : String} {texts : List String}
      (turn : turn? stack = some (some s, rest)) (further : Turns k rest texts last) :
      Turns (k + 1) stack (s :: texts) last

def turns : List Piece → Nat
  | [] => 0
  | text _ :: stack => turns stack + 1
  | tree t :: stack => turns stack + t.turns

section Turns

variable {stack rest last : List Piece} {text? : Option String} {s : String} {k k' : Nat}
variable {texts texts' : List String}

theorem turn?_eq_none_iff : turn? stack = none ↔ stack = [] := by
  fun_cases turn? stack <;> simp

theorem turn_cases (h : turn? stack = some (text?, rest)) :
    (∃ s, stack = text s :: rest ∧ text? = some s) ∨
    (∃ l, stack = tree (.leaf l) :: rest ∧ text? = l.text?) ∨
    ∃ o left right later, stack = tree (.node o left right) :: later ∧ text? = none ∧
      rest = text "(" :: tree left :: text o.spaced :: tree right :: text ")" :: later := by
  fun_cases turn? stack with
  | case1 => cases h
  | case2 s later =>
    cases h
    exact .inl ⟨s, rfl, rfl⟩
  | case3 l later =>
    cases h
    exact .inr (.inl ⟨l, rfl, rfl⟩)
  | case4 o left right later =>
    cases h
    exact .inr (.inr ⟨o, left, right, later, rfl, rfl, rfl⟩)

-- The stack grows by an operator, and still there is one turn less to make: an operator is counted
-- with the turn that takes it apart and with those of its three texts.
theorem turn_counted (h : turn? stack = some (text?, rest)) : turns stack = turns rest + 1 := by
  obtain ⟨s, rfl, -⟩ | ⟨l, rfl, -⟩ | ⟨o, left, right, later, rfl, -, rfl⟩ := turn_cases h
  · rfl
  · rfl
  · simp only [turns, Tree.turns]
    omega

theorem turn_writes (h : turn? stack = some (text?, rest)) :
    fragments stack = text?.toList ++ fragments rest := by
  obtain ⟨s, rfl, rfl⟩ | ⟨l, rfl, rfl⟩ | ⟨o, left, right, later, rfl, rfl, rfl⟩ := turn_cases h
  · rfl
  · rfl
  · simp [fragments, Tree.fragments]

theorem next?_of_silent (h : turn? stack = some (none, rest)) : next? stack = next? rest := by
  obtain ⟨s, -, hs⟩ | ⟨l, rfl, hl⟩ | ⟨o, left, right, later, rfl, -, rfl⟩ := turn_cases h
  · cases hs
  · rw [next?, ← hl]
  · rfl

theorem next?_of_text (h : turn? stack = some (some s, rest)) : next? stack = some (s, rest) := by
  obtain ⟨s, rfl, hs⟩ | ⟨l, rfl, hl⟩ | ⟨o, left, right, later, -, ho, -⟩ := turn_cases h
  · cases hs
    rfl
  · rw [next?, ← hl]
  · cases ho

theorem turns_eq_zero_iff : turns stack = 0 ↔ stack = [] := by
  constructor
  · intro h
    cases hturn : turn? stack with
    | none => exact turn?_eq_none_iff.mp hturn
    | some turn =>
      obtain ⟨text?, rest⟩ := turn
      rw [turn_counted hturn] at h
      cases h
  · rintro rfl
    rfl

theorem Turns.counted (h : Turns k stack texts last) : k + turns last = turns stack := by
  induction h with
  | none => exact Nat.zero_add _
  | silent turn _ ih =>
    rw [turn_counted turn, ← ih]
    exact Nat.add_right_comm ..
  | text turn _ ih =>
    rw [turn_counted turn, ← ih]
    exact Nat.add_right_comm ..

theorem Turns.writes (h : Turns k stack texts last) :
    texts ++ fragments last = fragments stack := by
  induction h with
  | none => rfl
  | silent turn _ ih =>
    rw [turn_writes turn, ih]
    rfl
  | text turn _ ih =>
    rw [turn_writes turn, List.cons_append, ih]
    rfl

theorem Turns.trans (h : Turns k stack texts rest) (h' : Turns k' rest texts' last) :
    Turns (k + k') stack (texts ++ texts') last := by
  induction h with
  | none =>
    rw [Nat.zero_add]
    exact h'
  | silent turn _ ih =>
    rw [Nat.add_right_comm]
    exact .silent turn (ih h')
  | text turn _ ih =>
    rw [Nat.add_right_comm]
    exact .text turn (ih h')

theorem turn_induction {motive : List Piece → Prop} (empty : motive [])
    (turn : ∀ {stack rest text?}, turn? stack = some (text?, rest) → motive rest → motive stack)
    (stack : List Piece) : motive stack := by
  induction hn : turns stack generalizing stack with
  | zero =>
    rw [turns_eq_zero_iff.mp hn]
    exact empty
  | succ n ih =>
    cases hturn : turn? stack with
    | none =>
      rw [turn?_eq_none_iff.mp hturn]
      exact empty
    | some taken =>
      obtain ⟨text?, rest⟩ := taken
      rw [turn_counted hturn] at hn
      exact turn hturn (ih rest (Nat.succ.inj hn))

theorem turns_to_end (stack : List Piece) : Turns (turns stack) stack (fragments stack) [] := by
  induction stack using turn_induction with
  | empty => exact .none []
  | @turn stack rest text? hturn ih =>
    rw [turn_counted hturn, turn_writes hturn]
    cases text? with
    | none => exact .silent hturn ih
    | some s => exact .text hturn ih

theorem exists_turns_next? (stack : List Piece) : ∃ k waiting, Turns k stack [] waiting ∧
    turn? waiting = (next? stack).map fun (s, rest) => (some s, rest) := by
  induction stack using turn_induction with
  | empty => exact ⟨0, [], .none [], rfl⟩
  | @turn stack rest text? hturn ih =>
    cases text? with
    | none =>
      obtain ⟨k, waiting, hturns, hnext⟩ := ih
      rw [next?_of_silent hturn]
      exact ⟨k + 1, waiting, .silent hturn hturns, hnext⟩
    | some s =>
      rw [next?_of_text hturn]
      exact ⟨0, stack, .none stack, hturn⟩

theorem exists_turns_take (n : Nat) (stack : List Piece) :
    ∃ k last, Turns k stack (take n stack) last := by
  fun_induction take n stack with
  | case1 stack => exact ⟨0, stack, .none stack⟩
  | case2 n stack s rest h ih =>
    obtain ⟨k, waiting, hturns, hturn⟩ := exists_turns_next? stack
    obtain ⟨k', last, hfurther⟩ := ih
    rw [h] at hturn
    exact ⟨_, last, hturns.trans (.text hturn hfurther)⟩
  | case3 n stack h => exact ⟨0, stack, .none stack⟩

end Turns

end Piece

inductive Item (ν : Type) where
  | text (text : String)
  | node (node : ν)

namespace Nodes

variable {m : Type → Type} [Monad m] {κ β ν : Type} (nodes : Nodes m κ β ν)
variable (leaf : κ → m (Option String)) (operator : β → m String) (emit : String → m Unit)

def itemsWeight (rank : ν → Nat) : List (Item ν) → Nat
  | [] => 0
  | .text _ :: stack => 1 + itemsWeight rank stack
  | .node x :: stack => 4 ^ (rank x + 1) + itemsWeight rank stack

theorem itemsWeight_operands {rank : ν → Nat} {x left right : ν} (hl : rank left < rank x)
    (hr : rank right < rank x) (opening s closing : String) (stack : List (Item ν)) :
    itemsWeight rank (.text opening :: .node left :: .text s :: .node right :: .text closing ::
      stack) < itemsWeight rank (.node x :: stack) := by
  have hleft : 4 ^ (rank left + 1) ≤ 4 ^ rank x := Nat.pow_le_pow_right (by decide) hl
  have hright : 4 ^ (rank right + 1) ≤ 4 ^ rank x := Nat.pow_le_pow_right (by decide) hr
  have hpos : 0 < 4 ^ rank left := Nat.pow_pos (by decide)
  simp only [itemsWeight, Nat.pow_succ] at *
  omega

def writeItems : List (Item ν) → m Unit
  | [] => pure ()
  | .text s :: stack => do
    emit s
    writeItems stack
  | .node x :: stack => do
    match ← nodes.view x with
    | .leaf l =>
      (← leaf l).toList.forM emit
      writeItems stack
    | .node b left right =>
      let s ← operator b
      writeItems (.text "(" :: .node left :: .text (" " ++ s ++ " ") :: .node right :: .text ")" ::
        stack)
termination_by stack => itemsWeight nodes.rank stack
decreasing_by
  · simp only [itemsWeight]
    omega
  · simp only [itemsWeight]
    have : 0 < 4 ^ (nodes.rank x + 1) := Nat.pow_pos (by decide)
    omega
  · exact itemsWeight_operands left.property right.property ..

def write (x : ν) : m Unit := do
  match ← nodes.view x with
  | .leaf l => (← leaf l).toList.forM emit
  | .node b left right =>
    let s ← operator b
    emit "("
    write left
    emit (" " ++ s ++ " ")
    write right
    emit ")"
termination_by nodes.rank x
decreasing_by
  · exact left.property
  · exact right.property

theorem writeItems_node [LawfulMonad m] (x : ν) (stack : List (Item ν)) :
    nodes.writeItems leaf operator emit (.node x :: stack) =
      nodes.write leaf operator emit x >>= fun _ => nodes.writeItems leaf operator emit stack := by
  induction hn : nodes.rank x using Nat.strongRecOn generalizing x stack with
  | _ n ih =>
  subst hn
  rw [writeItems, write, bind_assoc]
  congr 1
  funext view
  cases view with
  | leaf l => simp only [bind_assoc]
  | node b left right =>
    simp only [ih _ left.property _ _ rfl, ih _ right.property _ _ rfl, writeItems, bind_assoc]

theorem writeItems_eq [LawfulMonad m] (x : ν) :
    nodes.writeItems leaf operator emit [.node x] = nodes.write leaf operator emit x := by
  rw [writeItems_node]
  simp only [writeItems, bind_pure_unit]

end Nodes

namespace Tree

section Writing

variable {m : Type → Type} [Monad m] (emit : String → m Unit)

def writeTo (t : Tree) : m Unit :=
  nodes.writeItems (fun l => pure l.text?) (fun (o, _, _) => pure o.symbol) emit [.node t]

variable [LawfulMonad m] (leaf : Leaf → m (Option String))
variable (operator : Operator × Tree × Tree → m String)

theorem write_leaf (l : Leaf) : nodes.write leaf operator emit (.leaf l) =
    leaf l >>= fun text? => text?.toList.forM emit := by
  rw [Nodes.write, nodes, pure_bind]

theorem write_node (o : Operator) (left right : Tree) :
    nodes.write leaf operator emit (.node o left right) = (do
      let s ← operator (o, left, right)
      emit "("
      nodes.write leaf operator emit left
      emit (" " ++ s ++ " ")
      nodes.write leaf operator emit right
      emit ")") := by
  rw [Nodes.write, nodes, pure_bind]

theorem writeTo_eq (t : Tree) : t.writeTo emit = t.fragments.forM emit := by
  rw [writeTo, Nodes.writeItems_eq]
  induction t with
  | leaf l => rw [write_leaf, pure_bind, fragments]
  | node o left right ihl ihr =>
    rw [write_node, pure_bind, ihl, ihr]
    simp [fragments, Operator.spaced]

end Writing

theorem written_turn_by_turn (t : Tree) :
    (∀ {k texts stack}, Piece.Turns k [.tree t] texts stack → k ≤ t.turns ∧
      (k = t.turns ↔ stack = []) ∧ texts ++ Piece.fragments stack = t.fragments) ∧
    Piece.Turns t.turns [.tree t] t.fragments [] ∧
    t.render = String.join t.fragments ∧
    (∀ n, t.firstFragments n <+: t.fragments ∧
      (t.firstFragments n).length = min n t.fragments.length ∧
      ∃ k stack, Piece.Turns k [.tree t] (t.firstFragments n) stack) ∧
    (∀ {m : Type → Type} [Monad m] [LawfulMonad m] (emit : String → m Unit),
      t.writeTo emit = t.fragments.forM emit) ∧
    ∀ {m : Type → Type} [Monad m] [LawfulMonad m] {κ β ν : Type} (nodes : Nodes m κ β ν)
      (leaf : κ → m (Option String)) (operator : β → m String) (emit : String → m Unit) (x : ν),
      nodes.writeItems leaf operator emit [.node x] = nodes.write leaf operator emit x := by
  have hturns : Piece.turns [.tree t] = t.turns := Nat.zero_add _
  have hfragments : Piece.fragments [.tree t] = t.fragments := List.append_nil _
  refine ⟨fun {k texts stack} h => ?_, ?_, t.render_eq, fun n => ⟨?_, ?_, ?_⟩,
    fun emit => t.writeTo_eq emit,
    fun nodes leaf operator emit x => nodes.writeItems_eq leaf operator emit x⟩
  · have hcounted : k + Piece.turns stack = t.turns := h.counted.trans hturns
    refine ⟨Nat.le.intro hcounted, ?_, h.writes.trans hfragments⟩
    rw [← Piece.turns_eq_zero_iff]
    omega
  · rw [← hturns, ← hfragments]
    exact Piece.turns_to_end _
  · rw [firstFragments_eq]
    exact List.take_prefix n _
  · rw [firstFragments_eq, List.length_take]
  · exact Piece.exists_turns_take n _

def takeThree (s : String) : ExceptT String (StateM (List String)) Unit := do
  if (← get).length = 3 then throw s else modify (· ++ [s])

def textOrRaise (l : Leaf) : ExceptT String (StateM (List String)) (Option String) :=
  match l.text? with
  | some s => pure (some s)
  | none => throw Wording.absentOperand

theorem product_written_up_to_operand :
    let t := node ⟨"*", ⟨1, 9⟩⟩ openDifference (number 3 ⟨1, 11⟩)
    let stack := [.text " - ", .tree absent, .text ")", .text " * ", .tree (number 3 ⟨1, 11⟩),
      .text ")"]
    let raising := nodes.writeItems textOrRaise (fun (o, _, _) => pure o.symbol)
      (fun s => modify (· ++ [s])) [.node t]
    Piece.Turns 5 [.tree t] ["(", "(", "x"] stack ∧ 5 ≤ t.turns ∧ t.turns = 11 ∧
    ["(", "(", "x"] ++ Piece.fragments stack = t.fragments ∧
    ((t.writeTo takeThree).run.run []).run = (.error " - ", ["(", "(", "x"]) ∧
    (raising.run.run []).run = (.error Wording.absentOperand, ["(", "(", "x", " - "]) := by
  intro t stack raising
  obtain ⟨hturns, -, -, -, hemit, hnodes⟩ := written_turn_by_turn t
  have h : Piece.Turns 5 [.tree t] ["(", "(", "x"] stack :=
    .silent rfl (.text rfl (.silent rfl (.text rfl (.text rfl (.none stack)))))
  refine ⟨h, (hturns h).1, rfl, (hturns h).2.2, ?_, ?_⟩
  · rw [hemit takeThree]
    rfl
  · rw [show raising = _ from hnodes ..]
    simp only [t, openDifference, write_node, write_leaf]
    rfl

end Tree

end Calculator

import Calculator.Token
import Calculator.Tree

namespace Calculator.Grammar

abbrev Phrase := List Token → Tree → Prop

inductive LeftFold (symbols : List String) (Operand : Phrase) : Phrase
  | single {tokens : List Token} {tree : Tree} (only : Operand tokens tree) :
      LeftFold symbols Operand tokens tree
  | snoc {before after : List Token} {left right : Tree} {symbol : String} {place : Position}
      (initial : LeftFold symbols Operand before left) (mem : symbol ∈ symbols)
      (last : Operand after right) :
      LeftFold symbols Operand (before ++ ⟨.symbol symbol, place⟩ :: after)
        (.node ⟨symbol, place⟩ left right)

inductive FactorOver (Inner : Phrase) : Phrase
  | number (value : Int) (place : Position) :
      FactorOver Inner [⟨.number value, place⟩] (.number value place)
  | identifier (name : String) (place : Position) :
      FactorOver Inner [⟨.identifier name, place⟩] (.identifier name place)
  | parentheses {tokens : List Token} {tree : Tree} (opening closing : Position)
      (inner : Inner tokens tree) :
      FactorOver Inner (⟨.symbol "(", opening⟩ :: tokens ++ [⟨.symbol ")", closing⟩]) tree

def sums : List String := ["+", "-"]

def products : List String := ["*", "/"]

theorem sums_apart : ∀ symbol ∈ sums, symbol ∉ products := by decide

def Inside : Nat → Phrase
  | 0 => fun _ _ => False
  | depth + 1 => LeftFold sums (LeftFold products (FactorOver (Inside depth)))

def Factor (depth : Nat) : Phrase := FactorOver (Inside depth)

def Term (depth : Nat) : Phrase := LeftFold products (Factor depth)

def Expression (depth : Nat) : Phrase := LeftFold sums (Term depth)

theorem not_inside_zero (tokens : List Token) (tree : Tree) : ¬ Inside 0 tokens tree := id

variable {depth : Nat} {tokens before after : List Token} {tree left right : Tree}

theorem expression_of_factor (h : Factor depth tokens tree) : Expression depth tokens tree :=
  .single (.single h)

theorem expression_of_operation {symbol : String} (place : Position)
    (mem : symbol ∈ sums ++ products) (hl : Factor depth before left)
    (hr : Factor depth after right) :
    Expression depth (before ++ ⟨.symbol symbol, place⟩ :: after)
      (.node ⟨symbol, place⟩ left right) := by
  rcases List.mem_append.mp mem with hs | hp
  · exact .snoc (expression_of_factor hl) hs (.single hr)
  · exact .single (.snoc (.single hl) hp hr)

section Induction

variable {symbols : List String} {phrase motive : Phrase}

theorem leftFold_induction (operand : ∀ {tokens tree}, phrase tokens tree → motive tokens tree)
    (operation : ∀ {before after left right symbol} (place : Position), symbol ∈ symbols →
      motive before left → motive after right →
      motive (before ++ ⟨.symbol symbol, place⟩ :: after) (.node ⟨symbol, place⟩ left right))
    (h : LeftFold symbols phrase tokens tree) : motive tokens tree := by
  induction h with
  | single only => exact operand only
  | snoc _ mem last ih => exact operation _ mem ih (operand last)

theorem inside_induction
    (number : ∀ value place, motive [⟨.number value, place⟩] (.number value place))
    (identifier : ∀ name place, motive [⟨.identifier name, place⟩] (.identifier name place))
    (parentheses : ∀ {tokens tree} (opening closing : Position), motive tokens tree →
      motive (⟨.symbol "(", opening⟩ :: tokens ++ [⟨.symbol ")", closing⟩]) tree)
    (operation : ∀ {before after left right symbol} (place : Position),
      symbol ∈ sums ++ products → motive before left → motive after right →
      motive (before ++ ⟨.symbol symbol, place⟩ :: after) (.node ⟨symbol, place⟩ left right))
    (h : Inside depth tokens tree) : motive tokens tree := by
  induction depth generalizing tokens tree with
  | zero => exact h.elim
  | succ depth ih =>
    have factor {tokens tree} (hf : FactorOver (Inside depth) tokens tree) :
        motive tokens tree := by
      cases hf with
      | number value place => exact number value place
      | identifier name place => exact identifier name place
      | parentheses opening closing inner => exact parentheses opening closing (ih inner)
    have term {tokens tree} (ht : LeftFold products (FactorOver (Inside depth)) tokens tree) :
        motive tokens tree :=
      leftFold_induction factor (fun place mem => operation place (List.mem_append_right _ mem)) ht
    exact leftFold_induction term (fun place mem => operation place (List.mem_append_left _ mem)) h

end Induction

section Mono

variable {symbols : List String} {phrase phrase' : Phrase} {deeper : Nat}

theorem leftFold_mono (hp : ∀ {tokens tree}, phrase tokens tree → phrase' tokens tree)
    (h : LeftFold symbols phrase tokens tree) : LeftFold symbols phrase' tokens tree := by
  induction h with
  | single only => exact .single (hp only)
  | snoc _ mem last ih => exact .snoc ih mem (hp last)

theorem factorOver_mono (hp : ∀ {tokens tree}, phrase tokens tree → phrase' tokens tree)
    (h : FactorOver phrase tokens tree) : FactorOver phrase' tokens tree := by
  cases h with
  | number value place => exact .number value place
  | identifier name place => exact .identifier name place
  | parentheses opening closing inner => exact .parentheses opening closing (hp inner)

theorem inside_mono (hd : depth ≤ deeper) (h : Inside depth tokens tree) :
    Inside deeper tokens tree := by
  induction depth generalizing deeper tokens tree with
  | zero => exact h.elim
  | succ depth ih =>
    obtain ⟨further, rfl⟩ : ∃ further, deeper = further + 1 := ⟨deeper - 1, by omega⟩
    have hi {tokens : List Token} {tree : Tree} (hin : Inside depth tokens tree) :
        Inside further tokens tree := ih (by omega) hin
    exact leftFold_mono (leftFold_mono (factorOver_mono hi)) h

theorem factor_mono (hd : depth ≤ deeper) (h : Factor depth tokens tree) :
    Factor deeper tokens tree := factorOver_mono (inside_mono hd) h

theorem term_mono (hd : depth ≤ deeper) (h : Term depth tokens tree) : Term deeper tokens tree :=
  leftFold_mono (factor_mono hd) h

theorem expression_mono (hd : depth ≤ deeper) (h : Expression depth tokens tree) :
    Expression deeper tokens tree := leftFold_mono (term_mono hd) h

end Mono

end Calculator.Grammar

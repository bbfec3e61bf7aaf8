import Calculator.Proofs.Answer
import Calculator.Proofs.InStore
import Calculator.Proofs.LongestCut
import Calculator.Proofs.RoundTrip

/-!
The ways in which a line of input can end: with a numeral that is too long, with a word that there is
no expression, with a full answer, or with a divisor that is zero. Whether a value is asked for is
decided on the parsed tree, and the value is then taken of the simplified one, also where the parsed
tree is simplified in place.
-/

namespace Calculator

open Grammar

theorem Source.short {value : Int} {source : List Char} (h : Source (.number value) source) :
    source.length ≤ Numeral.maxDigits := by
  cases h with
  | number _ _ short => exact short

theorem Lexed.writable {value : Int} (h : Lexed (.number value)) :
    (toString value).length ≤ Numeral.maxDigits := by
  obtain ⟨source, hs⟩ := lexed_iff_source.mp h
  exact hs.text.short

def Token.Writable (tokens : List Token) : Prop :=
  ∀ value place, ⟨.number value, place⟩ ∈ tokens → (toString value).length ≤ Numeral.maxDigits

theorem writable_of_scan {text : String} {tokens : List Token}
    (h : (Scan.ofText text).result = .ok tokens) : Token.Writable tokens := fun _ _ hm =>
  Lexed.writable ⟨text, tokens, h, List.mem_map_of_mem hm⟩

namespace Tree

def subtrees : Tree → List Tree
  | leaf l => [leaf l]
  | node o left right => node o left right :: (left.subtrees ++ right.subtrees)

def operators : Tree → List Operator
  | leaf _ => []
  | node o left right => o :: (left.operators ++ right.operators)

variable {t left right : Tree} {o : Operator} {depth : Nat} {tokens : List Token}

theorem mem_operators (h : node o left right ∈ t.subtrees) : o ∈ t.operators := by
  induction t with
  | leaf l => cases List.mem_singleton.mp h
  | node o' left' right' ihl ihr =>
    rcases List.mem_cons.mp h with he | hm
    · cases he
      exact List.mem_cons_self
    · refine List.mem_cons_of_mem _ (List.mem_append.mpr ?_)
      exact (List.mem_append.mp hm).imp ihl ihr

theorem operators_simplify (t : Tree) : t.simplify.operators ⊆ t.operators := by
  refine simplify_induction (motive := fun t u => u.operators ⊆ t.operators) ?_ ?_ ?_ ?_ t
  · exact fun _ => List.Subset.refl _
  · intro o left right left' right' hl hr
    refine List.cons_subset_cons o (List.append_subset.mpr ⟨?_, ?_⟩)
    · exact List.subset_append_of_subset_left _ hl
    · exact List.subset_append_of_subset_right _ hr
  · exact fun h => List.subset_cons_of_subset _ (List.subset_append_of_subset_left _ h)
  · exact fun h => List.subset_cons_of_subset _ (List.subset_append_of_subset_right _ h)

theorem operators_inside (h : Inside depth tokens t) :
    ∀ o ∈ t.operators, ⟨.symbol o.symbol, o.position⟩ ∈ tokens := by
  refine inside_induction (motive := fun tokens t =>
    ∀ o ∈ t.operators, ⟨.symbol o.symbol, o.position⟩ ∈ tokens) ?_ ?_ ?_ ?_ h
  · exact fun _ _ _ ho => by cases ho
  · exact fun _ _ _ ho => by cases ho
  · intro tokens t opening closing ih o ho
    exact List.mem_append_left _ (List.mem_cons_of_mem _ (ih o ho))
  · intro before after left right symbol place _ ihl ihr o ho
    rcases List.mem_cons.mp ho with rfl | ho
    · exact List.mem_append_right _ List.mem_cons_self
    · rcases List.mem_append.mp ho with hl | hr
      · exact List.mem_append_left _ (ihl o hl)
      · exact List.mem_append_right _ (List.mem_cons_of_mem _ (ihr o hr))

theorem isNumerical_simplify : t.isNumerical = true → t.simplify.isNumerical = true := by
  refine simplify_induction
    (motive := fun t u => t.isNumerical = true → u.isNumerical = true) ?_ ?_ ?_ ?_ t
  · exact fun _ h => h
  · intro o left right left' right' ihl ihr h
    rw [isNumerical_node, Bool.and_eq_true] at h ⊢
    exact h.imp ihl ihr
  · intro o left right left' ih h
    rw [isNumerical_node, Bool.and_eq_true] at h
    exact ih h.1
  · intro o left right right' ih h
    rw [isNumerical_node, Bool.and_eq_true] at h
    exact ih h.2

def Writable (t : Tree) : Prop :=
  ∀ value place, number value place ∈ t.subtrees → (toString value).length ≤ Numeral.maxDigits

section Evaluation

variable {α : Type} (arithmetic : Arithmetic α)

structure ZeroQuotient (t : Tree) (o : Operator) (left right : Tree) : Prop where
  inside : node o left right ∈ t.subtrees
  quotient : o.symbol = "/"
  divisor : ∃ zero, right.evaluate arithmetic = .ok zero ∧ arithmetic.isZero zero = true

variable {arithmetic}
variable {o' : Operator} {left' right' : Tree}

theorem ZeroQuotient.of_left (h : ZeroQuotient arithmetic left o' left' right') :
    ZeroQuotient arithmetic (node o left right) o' left' right' where
  inside := List.mem_cons_of_mem _ (List.mem_append_left _ h.inside)
  quotient := h.quotient
  divisor := h.divisor

theorem ZeroQuotient.of_right (h : ZeroQuotient arithmetic right o' left' right') :
    ZeroQuotient arithmetic (node o left right) o' left' right' where
  inside := List.mem_cons_of_mem _ (List.mem_append_right _ h.inside)
  quotient := h.quotient
  divisor := h.divisor

theorem operate_of_grammar (ho : o.symbol ∈ sums ++ products) (left right : Tree) (a b : α) :
    (∃ value, arithmetic.operate o left right a b = .ok value) ∨
      o.symbol = "/" ∧ arithmetic.isZero b = true ∧
        arithmetic.operate o left right a b = .error (.zeroDivisor o left right) := by
  rw [Arithmetic.operate]
  split_ifs with hadd hsub hmul hdiv hzero
  · exact .inl ⟨_, rfl⟩
  · exact .inl ⟨_, rfl⟩
  · exact .inl ⟨_, rfl⟩
  · exact .inr ⟨hdiv, hzero, rfl⟩
  · exact .inl ⟨_, rfl⟩
  · simp [sums, products, hadd, hsub, hmul, hdiv] at ho

theorem evaluate_of_numerical (hr : t.Readable) (hn : t.isNumerical = true) :
    (∃ value, t.evaluate arithmetic = .ok value) ∨
      ∃ o left right, ZeroQuotient arithmetic t o left right ∧
        t.evaluate arithmetic = .error (.zeroDivisor o left right) := by
  induction t with
  | leaf l =>
    cases l with
    | absent => exact hr.elim
    | number value place => exact .inl ⟨_, evaluate_leaf arithmetic _⟩
    | identifier name place =>
      rw [isNumerical_leaf] at hn
      cases hn
  | node o left right ihl ihr =>
    obtain ⟨ho, hrl, hrr⟩ := hr
    rw [isNumerical_node, Bool.and_eq_true] at hn
    rw [evaluate_node]
    rcases ihl hrl hn.1 with ⟨a, ha⟩ | ⟨o', left', right', hz, he⟩
    · rw [ha]
      rcases ihr hrr hn.2 with ⟨b, hb⟩ | ⟨o', left', right', hz, he⟩
      · rw [hb]
        rcases operate_of_grammar ho left right a b with hv | ⟨hdiv, hzero, he⟩
        · exact .inl hv
        · exact .inr ⟨o, left, right, ⟨List.mem_cons_self, hdiv, b, hb, hzero⟩, he⟩
      · rw [he]
        exact .inr ⟨o', left', right', hz.of_right, rfl⟩
    · rw [he]
      exact .inr ⟨o', left', right', hz.of_left, rfl⟩

end Evaluation

theorem readable_of_mem_subtrees {s : Tree} (h : t.Readable) (hs : s ∈ t.subtrees) :
    s.Readable := by
  induction t with
  | leaf l =>
    cases List.mem_singleton.mp hs
    exact h
  | node o left right ihl ihr =>
    rcases List.mem_cons.mp hs with rfl | hm
    · exact h
    · rcases List.mem_append.mp hm with hl | hr
      · exact ihl h.2.1 hl
      · exact ihr h.2.2 hr

theorem Readable.writable (h : t.Readable) : t.Writable := by
  intro value place hm
  have hl : Lexed (.number value) := readable_of_mem_subtrees h hm
  exact hl.writable

end Tree

namespace Reply

inductive Ending where
  | unreadable
  | noExpression
  | answered
  | zeroDivisor

structure ShowsValue (tree : Tree) (line : String) : Prop where
  numerical : tree.isNumerical = true ↔ ∃ value, tree.simplify.evaluate .double = .ok value ∧
    line = "the value is " ++ Significant.text value
  notNumerical : tree.isNumerical = false ↔ line = "this is not a numerical expression"

inductive Ends (text : String) : Ending → Prop
  | unreadable {digits : Nat} (long : Numeral.maxDigits < digits)
      (scan : (Scan.ofText text).result = .error (.tooLong digits))
      (outcome : (reply text).outcome = .error (.numeral (.tooLong digits))) :
      Ends text .unreadable
  | noExpression {tokens : List Token} {failure : Failure}
      (scan : (Scan.ofText text).result = .ok tokens) (written : Token.Writable tokens)
      (parse : Tree.parse tokens = .error failure)
      (stage : (failure.diagnostic tokens).stage = .parsing)
      (outcome : (reply text).outcome = .ok [Token.echo tokens, "this is not an expression"]) :
      Ends text .noExpression
  | answered {tokens : List Token} {tree : Tree} {line : String}
      (scan : (Scan.ofText text).result = .ok tokens) (written : Token.Writable tokens)
      (parse : Tree.parse tokens = .ok tree)
      (trees : tree.Writable ∧ tree.simplify.Writable)
      (value : ShowsValue tree line)
      (outcome : (reply text).outcome = .ok [Token.echo tokens,
        "in infix notation: " ++ tree.render, line, "simplified: " ++ tree.simplify.render]) :
      Ends text .answered
  | zeroDivisor {tokens : List Token} {tree : Tree} {o : Operator} {left right : Tree}
      {error : EvaluationError}
      (scan : (Scan.ofText text).result = .ok tokens) (written : Token.Writable tokens)
      (parse : Tree.parse tokens = .ok tree)
      (trees : tree.Writable ∧ tree.simplify.Writable)
      (numerical : tree.isNumerical = true)
      (zero : tree.simplify.ZeroQuotient .double o left right)
      (token : ⟨.symbol "/", o.position⟩ ∈ tokens)
      (outcome : (reply text).outcome = .error (.evaluation error))
      (diagnostic : error.diagnostic? = some ⟨.evaluation, o.position,
        "divisor of `" ++ (Tree.node o left right).render ++ "` is zero"⟩) :
      Ends text .zeroDivisor

def Ending.ofOutcome : Except Escape (List String) → Ending
  | .error (.numeral _) => .unreadable
  | .error (.evaluation _) => .zeroDivisor
  | .ok [_, _] => .noExpression
  | .ok _ => .answered

variable {text : String} {tokens : List Token} {tree : Tree} {ending : Ending}

theorem Ends.eq_ofOutcome (h : Ends text ending) : ending = .ofOutcome (reply text).outcome := by
  cases h with
  | unreadable _ _ outcome => rw [outcome]; rfl
  | noExpression _ _ _ _ outcome => rw [outcome]; rfl
  | answered _ _ _ _ _ outcome => rw [outcome]; rfl
  | zeroDivisor _ _ _ _ _ _ _ outcome _ => rw [outcome]; rfl

theorem valueLine_ne_notNumerical (value : Float) : valueLine value ≠ notNumerical :=
  value_ne_notNumerical _

theorem showsValue_of_numerical {value : Float} (hn : tree.isNumerical = true)
    (hv : tree.simplify.evaluate .double = .ok value) : ShowsValue tree (valueLine value) where
  numerical := ⟨fun _ => ⟨value, hv, rfl⟩, fun _ => hn⟩
  notNumerical := by
    rw [hn]
    constructor
    · intro h
      cases h
    · intro h
      exact absurd h (valueLine_ne_notNumerical value)

theorem showsValue_of_not_numerical (hn : tree.isNumerical = false) :
    ShowsValue tree notNumerical where
  numerical := by
    rw [hn]
    constructor
    · intro h
      cases h
    · rintro ⟨value, -, h⟩
      exact absurd h.symm (valueLine_ne_notNumerical value)
  notNumerical := ⟨fun _ => rfl, fun _ => hn⟩

theorem ends_of_not_numerical (hs : (Scan.ofText text).result = .ok tokens)
    (hp : Tree.parse tokens = .ok tree) (hn : tree.isNumerical = false) : Ends text .answered := by
  have hr := Tree.readable_of_parse hs hp
  have ha := answer_of_line hp (valueOf_not_numerical hn tree.simplify)
  exact .answered hs (writable_of_scan hs) hp
    ⟨hr.writable, (Tree.readable_simplify hr).writable⟩ (showsValue_of_not_numerical hn)
    ((outcome_eq_ok_iff hs).mpr ha)

theorem ends_of_numerical (hs : (Scan.ofText text).result = .ok tokens)
    (hp : Tree.parse tokens = .ok tree) (hn : tree.isNumerical = true) :
    Ends text .answered ∨ Ends text .zeroDivisor := by
  have hw := writable_of_scan hs
  have hr := Tree.readable_of_parse hs hp
  have hrs := Tree.readable_simplify hr
  have hv := valueOf_numerical hn tree.simplify
  rcases Tree.evaluate_of_numerical hrs (Tree.isNumerical_simplify hn) with
    ⟨value, he⟩ | ⟨o, left, right, hz, he⟩
  · rw [he] at hv
    exact .inl (.answered hs hw hp ⟨hr.writable, hrs.writable⟩ (showsValue_of_numerical hn he)
      ((outcome_eq_ok_iff hs).mpr (answer_of_line hp hv)))
  · rw [he] at hv
    have hm := Tree.operators_simplify tree (Tree.mem_operators hz.inside)
    have ht := Tree.operators_inside (Tree.inside_of_parse hp) o hm
    rw [hz.quotient] at ht
    exact .inr (.zeroDivisor hs hw hp ⟨hr.writable, hrs.writable⟩ hn hz ht
      (outcome_of_answer_error hs (answer_of_no_value hp hv)) rfl)

theorem ends_unreadable_iff :
    Ends text .unreadable ↔ ∃ error, (Scan.ofText text).result = .error error := by
  constructor
  · rintro ⟨-, hs⟩
    exact ⟨_, hs⟩
  · rintro ⟨error, hs⟩
    obtain ⟨digits, hlong, rfl⟩ := tooLong_of_result hs
    exact .unreadable hlong hs (outcome_of_error hs)

theorem exists_ends (text : String) : ∃ ending, Ends text ending := by
  cases hs : (Scan.ofText text).result with
  | error error => exact ⟨_, ends_unreadable_iff.mpr ⟨error, hs⟩⟩
  | ok tokens =>
    cases hp : Tree.parse tokens with
    | error failure =>
      have ho := (outcome_eq_ok_iff hs).mpr (answer_of_failure hp)
      exact ⟨_, .noExpression hs (writable_of_scan hs) hp rfl ho⟩
    | ok tree =>
      cases hn : tree.isNumerical with
      | false => exact ⟨_, ends_of_not_numerical hs hp hn⟩
      | true => exact (ends_of_numerical hs hp hn).elim (⟨_, ·⟩) (⟨_, ·⟩)

theorem ends_in_one_way (text : String) :
    (∃! ending, Ends text ending) ∧
    (Ends text .unreadable ↔ ∃ stretches tail, Cuts text.toList stretches tail ∧
      ∃ stretch ∈ stretches, stretch.oversized = true) ∧
    (replyInStore text).1 = reply text := by
  refine ⟨?_, ?_, replyInStore_eq text⟩
  · obtain ⟨ending, h⟩ := exists_ends text
    exact ⟨ending, h, fun _ h' => h'.eq_ofOutcome.trans h.eq_ofOutcome.symm⟩
  · rw [ends_unreadable_iff]
    constructor
    · intro hf
      obtain ⟨stretches, tail, hc⟩ := exists_cuts text.toList
      exact ⟨stretches, tail, hc, (result_fails_iff hc).mp hf⟩
    · rintro ⟨stretches, tail, hc, ho⟩
      exact (result_fails_iff hc).mpr ho

end Reply

end Calculator

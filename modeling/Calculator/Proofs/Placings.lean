import Calculator.Parser.Session
import Calculator.Proofs.Echo
import Calculator.Proofs.UnplacedCells
import Calculator.Proofs.UnplacedReports

namespace Calculator

namespace Tree

def KeepsRoot (t : Tree) : Prop :=
  let (root, store) := ((Store.load t).run .empty).run
  (store.simplify root).1 = root

theorem keepsRoot_unplaced (t : Tree) : t.unplaced.KeepsRoot = t.KeepsRoot := by
  have hl := Store.load_unplaced t .empty
  rw [Store.empty_unplaced] at hl
  simp only [KeepsRoot, hl, Store.simplify_unplaced]

end Tree

inductive SameOutcome {α : Type} (same : α → α → Prop) :
    Except Failure α → Except Failure α → Prop
  | value {a b : α} (h : same a b) : SameOutcome same (.ok a) (.ok b)
  | failure {found found' : Failure} (message : found.fault.message = found'.fault.message)
      (left : found.rest.length = found'.rest.length) (nesting : found.nesting = found'.nesting) :
      SameOutcome same (.error found) (.error found')

section Outcome

variable {α β : Type} {same : α → α → Prop} {found found' : Except Failure α}
variable {tokens tokens' rest rest' : List Token}

theorem length_of_withoutPlaces (h : withoutPlaces rest = withoutPlaces rest') :
    rest.length = rest'.length := by
  have hl := congrArg List.length h
  rwa [withoutPlaces, withoutPlaces, List.length_map, List.length_map] at hl

theorem sameOutcome_of_unplaced (unplaced : α → β) (hs : ∀ a b, unplaced a = unplaced b → same a b)
    (h : (found.map unplaced).mapError Failure.unplaced =
      (found'.map unplaced).mapError Failure.unplaced) : SameOutcome same found found' := by
  cases found with
  | ok a =>
    cases found' with
    | ok b => exact .value (hs a b (Except.ok.inj h))
    | error failure' => cases h
  | error failure =>
    cases found' with
    | ok b => cases h
    | error failure' =>
      obtain ⟨hf, hr, hn⟩ := Failure.mk.inj (Except.error.inj h)
      exact .failure (congrArg Fault.message hf) (length_of_withoutPlaces hr) hn

def SameParsed (parsed parsed' : Tree × List Token) : Prop :=
  Tree.Alike parsed.1 parsed'.1 ∧ parsed.2.length = parsed'.2.length

theorem Reader.Placeless.sameOutcome {reader : Reader Id Tree} (hp : reader.Placeless)
    (h : tokens.map Token.lexeme = tokens'.map Token.lexeme) :
    SameOutcome SameParsed (reader.result tokens) (reader.result tokens') := by
  have hu (found : Except Failure (Tree × List Token)) : unplacedResult found =
      (found.map (Prod.map Tree.unplaced withoutPlaces)).mapError Failure.unplaced := by
    cases found <;> rfl
  refine sameOutcome_of_unplaced (Prod.map Tree.unplaced withoutPlaces) ?_ ?_
  · intro parsed parsed' he
    obtain ⟨ht, hl⟩ := Prod.mk.inj he
    exact ⟨ht, length_of_withoutPlaces hl⟩
  · rw [← hu, ← hu, ← hp, ← hp, withoutPlaces_eq_of_lexemes h]

theorem whole_sameOutcome (depth : Nat) (h : tokens.map Token.lexeme = tokens'.map Token.lexeme) :
    SameOutcome Tree.Alike (Tree.builder.whole depth tokens).run
      (Tree.builder.whole depth tokens').run := by
  have hu (tokens : List Token) : (Tree.builder.whole depth (withoutPlaces tokens)).run =
      ((Tree.builder.whole depth tokens).run.map Tree.unplaced).mapError Failure.unplaced := by
    rw [Tree.whole_withoutPlaces]
    cases (Tree.builder.whole depth tokens).run <;> rfl
  refine sameOutcome_of_unplaced Tree.unplaced (fun _ _ he => he) ?_
  rw [← hu, ← hu, withoutPlaces_eq_of_lexemes h]

end Outcome

namespace Session

variable {session session' : Session} {reader : Reader Id Tree}

structure Alike (session session' : Session) : Prop where
  tokens : session.tokens.map Token.lexeme = session'.tokens.map Token.lexeme
  offset : session.offset = session'.offset
  nesting : session.nesting = session'.nesting

inductive SameReading :
    Except Diagnostic Tree × Session → Except Diagnostic Tree × Session → Prop
  | tree {t u : Tree} {after after' : Session} (h : Tree.Alike t u) (later : after.Alike after') :
      SameReading (.ok t, after) (.ok u, after')
  | failure {found found' : Diagnostic} {after after' : Session} (stage : found.stage = found'.stage)
      (message : found.message = found'.message) (later : after.Alike after') :
      SameReading (.error found, after) (.error found', after')

theorem Alike.remaining (h : session.Alike session') :
    session.remaining.map Token.lexeme = session'.remaining.map Token.lexeme := by
  rw [Session.remaining, Session.remaining, List.map_drop, List.map_drop, h.tokens, h.offset]

theorem Alike.depth (h : session.Alike session') : session.depth = session'.depth :=
  congrArg (maxNesting - ·) h.nesting

theorem Alike.leaving (h : session.Alike session') {rest rest' : List Token} {nesting nesting' : Nat}
    (hl : rest.length = rest'.length) (hn : nesting = nesting') :
    (session.leaving rest nesting).Alike (session'.leaving rest' nesting') where
  tokens := h.tokens
  offset := by
    have hr := congrArg List.length h.remaining
    rw [List.length_map, List.length_map] at hr
    simp only [Session.leaving, h.offset, hr, hl]
  nesting := hn

theorem Alike.fail (h : session.Alike session') {failure failure' : Failure}
    (message : failure.fault.message = failure'.fault.message)
    (left : failure.rest.length = failure'.rest.length)
    (nesting : failure.nesting = failure'.nesting) :
    SameReading (session.fail failure) (session'.fail failure') :=
  .failure rfl message (h.leaving left nesting)

theorem Alike.read (h : session.Alike session') (hp : reader.Placeless) :
    SameReading (session.read reader) (session'.read reader) := by
  have hs := hp.sameOutcome h.remaining
  simp only [Reader.result, Session.read] at hs ⊢
  generalize (reader session.remaining).run = found at hs ⊢
  generalize (reader session'.remaining).run = found' at hs ⊢
  cases found with
  | ok parsed =>
    cases found' with
    | ok parsed' =>
      cases hs with
      | value hs => exact .tree hs.1 (h.leaving hs.2 h.nesting)
    | error failure' => cases hs
  | error failure =>
    cases found' with
    | ok parsed' => cases hs
    | error failure' =>
      cases hs with
      | failure message left nesting => exact h.fail message left nesting

theorem Alike.expression (h : session.Alike session') :
    SameReading session.expression session'.expression := by
  rw [Session.expression, Session.expression, h.depth]
  exact h.read (Tree.expression_placeless _)

theorem Alike.term (h : session.Alike session') : SameReading session.term session'.term := by
  rw [Session.term, Session.term, h.depth, h.nesting]
  exact h.read (Tree.term_placeless (Tree.inner?_placeless _))

theorem Alike.factor (h : session.Alike session') : SameReading session.factor session'.factor := by
  rw [Session.factor, Session.factor, h.depth, h.nesting]
  exact h.read (Tree.factor_placeless (Tree.inner?_placeless _))

theorem Alike.parse (h : session.Alike session') : SameReading session.parse session'.parse := by
  have hs := whole_sameOutcome session.depth h.remaining
  simp only [Session.parse, ← h.depth]
  generalize (Tree.builder.whole session.depth session.remaining).run = found at hs ⊢
  generalize (Tree.builder.whole session.depth session'.remaining).run = found' at hs ⊢
  cases hs with
  | value ht => exact .tree ht (h.leaving rfl h.nesting)
  | failure message left nesting => exact h.fail message left nesting

end Session

theorem places_show_in_places_only :
    (∀ tokens tokens' : List Token, tokens.map Token.lexeme = tokens'.map Token.lexeme →
      SameOutcome Tree.Alike (Tree.parse tokens) (Tree.parse tokens') ∧
      SameOutcome SameParsed (Tree.parseFirst tokens) (Tree.parseFirst tokens')) ∧
    (∀ session session' : Session, session.Alike session' →
      Session.SameReading session.parse session'.parse ∧
      Session.SameReading session.expression session'.expression ∧
      Session.SameReading session.term session'.term ∧
      Session.SameReading session.factor session'.factor) ∧
    (∀ t u : Tree, Tree.Alike t u →
      t.render = u.render ∧ t.isNumerical = u.isNumerical ∧ t.chart? = u.chart? ∧
      t.removals.map Removal.log = u.removals.map Removal.log ∧
      Tree.Alike t.simplify u.simplify ∧ (t.KeepsRoot ↔ u.KeepsRoot) ∧
      ∀ (α : Type) (arithmetic : Arithmetic α),
        (t.evaluate arithmetic).mapError EvaluationError.report? =
          (u.evaluate arithmetic).mapError EvaluationError.report?) ∧
    (∀ store store' : Store, store.unplaced = store'.unplaced → ∀ link,
      (store.simplify link).1 = (store'.simplify link).1 ∧
      (store.simplify link).2.unplaced = (store'.simplify link).2.unplaced) ∧
    (∀ text text' tokens tokens', (Scan.ofText text).result = .ok tokens →
      (Scan.ofText text').result = .ok tokens' →
      tokens.map Token.lexeme = tokens'.map Token.lexeme →
      (∀ lines, (reply text).outcome = .ok lines ↔ (reply text').outcome = .ok lines) ∧
      ∀ message, (reply text).Raises message ↔ (reply text').Raises message) ∧
    (∀ t u : Tree, Tree.Alike t u → Tree.RaisesAlike t u) ∧
    ∀ tokens tokens' : List Token, tokens.map Token.lexeme = tokens'.map Token.lexeme →
      ((Tree.tryParse tokens).map Tree.unplaced).mapError Raised.unplaced =
        ((Tree.tryParse tokens').map Tree.unplaced).mapError Raised.unplaced ∧
      ((Tree.tryParseFirst tokens).map (Prod.map Tree.unplaced withoutPlaces)).mapError
          Raised.unplaced =
        ((Tree.tryParseFirst tokens').map (Prod.map Tree.unplaced withoutPlaces)).mapError
          Raised.unplaced := by
  refine ⟨?_, ?_, ?_, ?_, ?_, fun _ _ h => h.raisesAlike, ?_⟩
  · intro tokens tokens' h
    exact ⟨whole_sameOutcome maxNesting h, (Tree.expression_placeless maxNesting).sameOutcome h⟩
  · intro session session' h
    exact ⟨h.parse, h.expression, h.term, h.factor⟩
  · intro t u h
    exact ⟨h.same Tree.render Tree.render_unplaced,
      h.same Tree.isNumerical Tree.isNumerical_unplaced, h.same Tree.chart? Tree.chart?_unplaced,
      h.same (fun t => t.removals.map Removal.log) Tree.log_unplaced, Tree.simplify_alike h,
      iff_of_eq (h.same Tree.KeepsRoot Tree.keepsRoot_unplaced),
      fun α arithmetic => h.same (fun t => (t.evaluate arithmetic).mapError EvaluationError.report?)
        (Tree.report_unplaced arithmetic)⟩
  · intro store store' h link
    have hs := Store.simplify_unplaced store link
    rw [h, Store.simplify_unplaced] at hs
    obtain ⟨hl, hc⟩ := Prod.mk.inj hs
    exact ⟨hl.symm, hc.symm⟩
  · intro text text' tokens tokens' hs hs' h
    refine ⟨fun lines => ⟨?_, ?_⟩, fun message => ?_⟩
    · exact Reply.outcome_of_lexemes hs hs' h
    · exact Reply.outcome_of_lexemes hs' hs h.symm
    · rw [Reply.raises_iff hs, Reply.raises_iff hs', Reply.answer_of_lexemes h]
  · intro tokens tokens' h
    have hu := withoutPlaces_eq_of_lexemes h
    rw [← Tree.tryParse_withoutPlaces, ← Tree.tryParseFirst_withoutPlaces, hu]
    exact ⟨Tree.tryParse_withoutPlaces tokens', Tree.tryParseFirst_withoutPlaces tokens'⟩

theorem spread_product_answered_alike :
    (reply "0*x+1").outcome = .ok ["0 * x + 1", "in infix notation: ((0 * x) + 1)",
      "this is not a numerical expression", "simplified: 1"] ∧
    (reply " 0 *\n x\n + 1").outcome = .ok ["0 * x + 1", "in infix notation: ((0 * x) + 1)",
      "this is not a numerical expression", "simplified: 1"] ∧
    ¬ (Tree.node ⟨"*", ⟨1, 1⟩⟩ (.number 0 ⟨1, 0⟩) (.identifier "x" ⟨1, 2⟩)).KeepsRoot ∧
    ¬ (Tree.node ⟨"*", ⟨1, 3⟩⟩ (.number 0 ⟨1, 1⟩) (.identifier "x" ⟨2, 1⟩)).KeepsRoot ∧
    Session.SameReading (Session.ofTokens (Scan.ofText "0*(x").tokens).parse
      (Session.ofTokens (Scan.ofText " 0 *\n ( x").tokens).parse ∧
    Tree.RaisesAlike
      (.node ⟨"*", ⟨1, 1⟩⟩ (.number 0 ⟨1, 0⟩) (.number (10 ^ Numeral.maxDigits) ⟨1, 2⟩))
      (.node ⟨"*", ⟨1, 3⟩⟩ (.number 0 ⟨1, 1⟩) (.number (10 ^ Numeral.maxDigits) ⟨2, 1⟩)) := by
  obtain ⟨-, hsession, htree, -, htext, hraises, -⟩ := places_show_in_places_only
  have ho : (reply "0*x+1").outcome = .ok ["0 * x + 1", "in infix notation: ((0 * x) + 1)",
      "this is not a numerical expression", "simplified: 1"] := by
    decide +kernel
  have hs : (Scan.ofText "0*x+1").result = .ok (Scan.ofText "0*x+1").tokens := by decide +kernel
  have hs' : (Scan.ofText " 0 *\n x\n + 1").result =
      .ok (Scan.ofText " 0 *\n x\n + 1").tokens := by
    decide +kernel
  have hl : (Scan.ofText "0*x+1").tokens.map Token.lexeme =
      (Scan.ofText " 0 *\n x\n + 1").tokens.map Token.lexeme := by
    decide +kernel
  have hk : ¬ (Tree.node ⟨"*", ⟨1, 1⟩⟩ (.number 0 ⟨1, 0⟩) (.identifier "x" ⟨1, 2⟩)).KeepsRoot := by
    unfold Tree.KeepsRoot
    decide +kernel
  obtain ⟨-, -, -, -, -, hroot, -⟩ := htree
    (.node ⟨"*", ⟨1, 1⟩⟩ (.number 0 ⟨1, 0⟩) (.identifier "x" ⟨1, 2⟩))
    (.node ⟨"*", ⟨1, 3⟩⟩ (.number 0 ⟨1, 1⟩) (.identifier "x" ⟨2, 1⟩)) rfl
  have halike : (Session.ofTokens (Scan.ofText "0*(x").tokens).Alike
      (Session.ofTokens (Scan.ofText " 0 *\n ( x").tokens) :=
    ⟨by decide +kernel, rfl, rfl⟩
  exact ⟨ho, ((htext _ _ _ _ hs hs' hl).1 _).mp ho, hk, mt hroot.mpr hk, (hsession _ _ halike).1,
    hraises _ _ rfl⟩

end Calculator

import Calculator.Lexer
import Calculator.Proofs.SteppedReading

/-!
Where a session stands, whatever was called before, failed readings included. Never more parentheses are
open than may be, and a reading neither goes back nor behind the last token. The parser that is stepped
stands there too.
-/

namespace Calculator

namespace Session

open Stepper

variable {session : Session} {tokens : List Token}

structure Moves (session : Session) (command : Command) (response : Response) (next : Session) :
    Prop where
  tokens : next.tokens = session.tokens
  limited : next.nesting ≤ maxNesting
  forward : session.offset ≤ next.offset
  behind : session.tokens.length < next.offset →
    next.offset = session.offset ∨ command = .advance ∧ session.tokens.length ≤ session.offset
  returned : ∀ tree, response = .tree (.ok tree) → next.nesting = session.nesting ∧
    session.offset < next.offset ∧ next.offset ≤ session.tokens.length
  raised : ∀ diagnostic, response = .tree (.error diagnostic) →
    session.nesting ≤ next.nesting ∧ next.diagnose diagnostic.message = diagnostic

theorem sound_stepper (h : session.nesting ≤ maxNesting) : session.stepper.Sound := ⟨rfl, h⟩

theorem perform_moves (h : session.nesting ≤ maxNesting) (command : Command) :
    session.Moves command (session.perform command).1 (session.perform command).2 := by
  have hm := (perform_performs h command).moves (sound_stepper h)
  exact {
    tokens := hm.tokens
    limited := hm.sound.2
    forward := hm.forward
    behind := hm.behind
    returned := hm.returned
    raised := by
      intro diagnostic he
      obtain ⟨hnesting, hplace⟩ := hm.raised diagnostic he
      rw [diagnose_stepper] at hplace
      exact ⟨hnesting, hplace⟩ }

def after (session : Session) (calls : List Command) : Session :=
  calls.foldl (fun session command => (session.perform command).2) session

theorem stepper_after (h : session.nesting ≤ maxNesting) (calls : List Command) :
    After session.stepper calls (session.after calls).stepper := by
  induction calls generalizing session with
  | nil => exact .none _
  | cons command later ih =>
    have hp := perform_performs h command
    exact .call hp (ih (perform_moves h command).limited)

theorem after_iff (h : session.nesting ≤ maxNesting) (calls : List Command) {stepper : Stepper} :
    After session.stepper calls stepper ↔ stepper = (session.after calls).stepper := by
  have hrun := stepper_after h calls
  constructor
  · exact fun hs => hs.unique hrun
  · rintro rfl
    exact hrun

theorem stepper_ofTokens (tokens : List Token) :
    (ofTokens tokens).stepper = Stepper.ofTokens tokens := by
  rw [Stepper.ofTokens, List.head?_eq_getElem?]
  rfl

theorem session_after_any_calls (tokens : List Token) (calls : List Command) :
    let session := (ofTokens tokens).after calls
    session.nesting ≤ maxNesting ∧ session.current? = tokens[session.offset]? ∧
      (∀ command,
        session.Moves command (session.perform command).1 (session.perform command).2) ∧
      (∀ stepper, After (.ofTokens tokens) calls stepper ↔
        stepper = ⟨tokens, session.offset, tokens[session.offset]?, session.nesting⟩) ∧
      ∀ command response next, Performs session.stepper command response next ↔
        response = (session.perform command).1 ∧ next = (session.perform command).2.stepper := by
  have hstart : (ofTokens tokens).nesting ≤ maxNesting := Nat.zero_le _
  obtain ⟨hsound, htokens⟩ := (stepper_after hstart calls).sound (sound_stepper hstart)
  have hsession : ((ofTokens tokens).after calls).tokens = tokens := htokens
  have hcurrent : ((ofTokens tokens).after calls).current? =
      tokens[((ofTokens tokens).after calls).offset]? := by
    rw [current?, hsession]
  refine ⟨hsound.2, hcurrent, perform_moves hsound.2, ?_, fun _ _ _ => performs_iff hsound.2⟩
  intro stepper
  rw [← stepper_ofTokens, after_iff hstart calls, Session.stepper, hcurrent, hsession]

example : ((ofTokens (Scan.ofText "(+(+").tokens).after
    [.expression, .advance, .expression]).nesting = 2 := by
  decide +kernel

end Session

end Calculator

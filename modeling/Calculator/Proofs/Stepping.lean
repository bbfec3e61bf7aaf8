import Mathlib.Tactic.SplitIfs
import Calculator.Parser.Stepper

/-!
A call of the parser has one outcome. Whatever was called before, the token that is kept is the one at the
index and no more parentheses are open than may be, although the count is compared with the limit only for
equality; a call that returns leaves the count as it found it.
-/

namespace Calculator

namespace Stepper

variable {s s' s₁ s₂ : Stepper} {call : Call} {outcome outcome' : Outcome} {tree : Tree}
variable {symbols : List String} {token : Token} {o : Operator} {command : Session.Command}
variable {calls : List Session.Command} {response response₁ response₂ : Session.Response}

theorem Runs.unique (h : Runs call s outcome) (h' : Runs call s outcome') : outcome = outcome' := by
  induction h generalizing outcome' with
  | chainRaised _ ih =>
    cases h' with
    | chainRaised first => exact ih first
    | chain first _ => cases ih first
  | chain _ _ ihf ihm =>
    cases h' with
    | chainRaised first => cases ihf first
    | chain first more =>
      cases ihf first
      exact ihm more
  | stop other =>
    cases h' with
    | stop => rfl
    | nextRaised operator _ => cases other.symm.trans operator
    | next operator _ _ => cases other.symm.trans operator
  | nextRaised operator _ ih =>
    cases h' with
    | stop other => cases other.symm.trans operator
    | nextRaised operator' next =>
      cases operator.symm.trans operator'
      exact ih next
    | next operator' next _ =>
      cases operator.symm.trans operator'
      cases ih next
  | next operator _ _ ihn ihm =>
    cases h' with
    | stop other => cases other.symm.trans operator
    | nextRaised operator' next =>
      cases operator.symm.trans operator'
      cases ihn next
    | next operator' next more =>
      cases operator.symm.trans operator'
      cases ihn next
      exact ihm more
  | factor look =>
    cases h' with
    | factor look' =>
      cases look.symm.trans look'
      rfl
    | insideRaised look' _ => cases look.symm.trans look'
    | inside look' _ => cases look.symm.trans look'
  | insideRaised look _ ih =>
    cases h' with
    | factor look' => cases look.symm.trans look'
    | insideRaised look' inside =>
      cases look.symm.trans look'
      exact ih inside
    | inside look' inside =>
      cases look.symm.trans look'
      cases ih inside
  | inside look _ ih =>
    cases h' with
    | factor look' => cases look.symm.trans look'
    | insideRaised look' inside =>
      cases look.symm.trans look'
      cases ih inside
    | inside look' inside =>
      cases look.symm.trans look'
      cases ih inside
      rfl

theorem Performs.unique (h₁ : Performs s command response₁ s₁)
    (h₂ : Performs s command response₂ s₂) : response₁ = response₂ ∧ s₁ = s₂ := by
  cases h₁ with
  | expression run =>
    cases h₂ with
    | expression run' =>
      cases run.unique run'
      exact ⟨rfl, rfl⟩
  | term run =>
    cases h₂ with
    | term run' =>
      cases run.unique run'
      exact ⟨rfl, rfl⟩
  | factor run =>
    cases h₂ with
    | factor run' =>
      cases run.unique run'
      exact ⟨rfl, rfl⟩
  | parseRaised run =>
    cases h₂ with
    | parseRaised run' =>
      cases run.unique run'
      exact ⟨rfl, rfl⟩
    | parse run' => cases run.unique run'
  | parse run =>
    cases h₂ with
    | parseRaised run' => cases run.unique run'
    | parse run' =>
      cases run.unique run'
      exact ⟨rfl, rfl⟩
  | advance =>
    cases h₂
    exact ⟨rfl, rfl⟩
  | remaining =>
    cases h₂
    exact ⟨rfl, rfl⟩
  | endPosition =>
    cases h₂
    exact ⟨rfl, rfl⟩
  | isSymbol symbols =>
    cases h₂
    exact ⟨rfl, rfl⟩
  | error message =>
    cases h₂
    exact ⟨rfl, rfl⟩

def Sound (s : Stepper) : Prop := s.current? = s.tokens[s.offset]? ∧ s.nesting ≤ maxNesting

theorem advance_current? (s : Stepper) : s.advance.current? = s.advance.tokens[s.advance.offset]? := by
  by_cases h : s.offset + 1 < s.tokens.length
  · simp [advance, h]
  · simp [advance, h]

def Call.taken : Call → Nat
  | .more _ _ => 0
  | _ => 1

structure Keeps (taken : Nat) (s : Stepper) (outcome : Outcome) : Prop where
  tokens : outcome.2.tokens = s.tokens
  sound : outcome.2.Sound
  forward : s.offset ≤ outcome.2.offset
  behind : outcome.2.offset = s.offset ∨ outcome.2.offset ≤ s.tokens.length
  returned : ∀ tree, outcome.1 = .ok tree →
    outcome.2.nesting = s.nesting ∧ s.offset + taken ≤ outcome.2.offset
  raised : ∀ diagnostic, outcome.1 = .error diagnostic → s.nesting ≤ outcome.2.nesting ∧
    outcome.2.diagnose diagnostic.message = diagnostic

theorem Sound.lt_of_some (h : s.Sound) (ht : s.current? = some token) :
    s.offset < s.tokens.length := by
  rw [h.1] at ht
  exact (List.getElem?_eq_some_iff.mp ht).1

theorem Sound.advance (h : s.Sound) : s.advance.Sound := ⟨s.advance_current?, h.2⟩

theorem diagnose_diagnose (s : Stepper) (message : String) :
    s.diagnose (s.diagnose message).message = s.diagnose message := by
  simp only [diagnose]
  cases s.current? with
  | none => rfl
  | some token => rfl

theorem keeps_fail (h : s.Sound) (fault : Fault) (taken : Nat) : Keeps taken s (s.fail fault) where
  tokens := rfl
  sound := h
  forward := Nat.le_refl _
  behind := .inl rfl
  returned _ he := by cases he
  raised := by
    rintro _ ⟨⟩
    exact ⟨Nat.le_refl _, s.diagnose_diagnose fault.message⟩

theorem keeps_stay (h : s.Sound) (tree : Tree) : Keeps 0 s (.ok tree, s) where
  tokens := rfl
  sound := h
  forward := Nat.le_refl _
  behind := .inl rfl
  returned _ _ := ⟨rfl, Nat.le_refl _⟩
  raised _ he := by cases he

theorem keeps_advance (h : s.Sound) (ht : s.current? = some token) (tree : Tree) :
    Keeps 1 s (.ok tree, s.advance) where
  tokens := rfl
  sound := h.advance
  forward := Nat.le_succ _
  behind := .inr (h.lt_of_some ht)
  returned _ _ := ⟨rfl, Nat.le_refl _⟩
  raised _ he := by cases he

theorem exists_of_isSymbol (h : s.isSymbol symbols = true) : ∃ token, s.current? = some token := by
  cases hc : s.current? with
  | none =>
    rw [isSymbol, hc] at h
    cases h
  | some token => exact ⟨token, rfl⟩

theorem exists_of_operator? (h : s.operator? symbols = some o) :
    ∃ token, s.current? = some token := by
  cases hc : s.current? with
  | none =>
    rw [operator?, hc] at h
    cases h
  | some token => exact ⟨token, rfl⟩

theorem look_cases (s : Stepper) : (∃ fault, s.look = .read (s.fail fault)) ∨
    ∃ token, s.current? = some token ∧ ((∃ tree, s.look = .read (.ok tree, s.advance)) ∨
      s.nesting ≠ maxNesting ∧
        s.look = .inside { s.advance with nesting := s.nesting + 1 }) := by
  rw [look]
  split
  · exact .inl ⟨_, rfl⟩
  · rename_i hc
    exact .inr ⟨_, hc, .inl ⟨_, rfl⟩⟩
  · rename_i hc
    exact .inr ⟨_, hc, .inl ⟨_, rfl⟩⟩
  · rename_i hc
    split_ifs with hs hn
    · exact .inl ⟨_, rfl⟩
    · exact .inr ⟨_, hc, .inr ⟨hn, rfl⟩⟩
    · exact .inl ⟨_, rfl⟩

theorem close_cases (tree : Tree) (s : Stepper) : (∃ fault, s.close tree = s.leave.fail fault) ∨
    ∃ token, s.leave.current? = some token ∧ s.close tree = (.ok tree, s.leave.advance) := by
  rw [close]
  split_ifs with h
  · obtain ⟨token, ht⟩ := exists_of_isSymbol h
    exact .inr ⟨token, ht, rfl⟩
  · left
    split
    · exact ⟨_, rfl⟩
    · exact ⟨_, rfl⟩

namespace Keeps

variable {taken taken' : Nat}

theorem mono (h : Keeps taken s outcome) (hle : taken' ≤ taken) : Keeps taken' s outcome :=
  { h with returned := fun tree he => ⟨(h.returned tree he).1, by
      have := (h.returned tree he).2
      omega⟩ }

theorem trans (h : Keeps taken s (.ok tree, s')) (h' : Keeps taken' s' outcome) :
    Keeps (taken + taken') s outcome := by
  obtain ⟨hnesting, hoffset⟩ := h.returned tree rfl
  have htokens : s'.tokens = s.tokens := h.tokens
  have hbehind := h'.behind
  rw [htokens] at hbehind
  exact {
    tokens := h'.tokens.trans h.tokens
    sound := h'.sound
    forward := Nat.le_trans h.forward h'.forward
    behind := by
      have := h.behind
      simp only at this
      omega
    returned := by
      intro tree' he
      obtain ⟨hnesting', hoffset'⟩ := h'.returned tree' he
      simp only at hnesting hoffset
      omega
    raised := by
      intro diagnostic he
      obtain ⟨hnesting', hplace⟩ := h'.raised diagnostic he
      refine ⟨?_, hplace⟩
      simp only at hnesting
      omega }

end Keeps

theorem look_read_keeps (h : s.Sound) (hl : s.look = .read outcome) : Keeps 1 s outcome := by
  obtain ⟨fault, hf⟩ | ⟨token, ht, ⟨tree, hr⟩ | ⟨-, hi⟩⟩ := look_cases s
  · cases hf.symm.trans hl
    exact keeps_fail h fault 1
  · cases hr.symm.trans hl
    exact keeps_advance h ht tree
  · cases hi.symm.trans hl

theorem look_inside {inner : Stepper} (hl : s.look = .inside inner) :
    ∃ token, s.current? = some token ∧ s.nesting ≠ maxNesting ∧
      inner = { s.advance with nesting := s.nesting + 1 } := by
  obtain ⟨fault, hf⟩ | ⟨token, ht, ⟨tree, hr⟩ | ⟨hn, hi⟩⟩ := look_cases s
  · cases hf.symm.trans hl
  · cases hr.symm.trans hl
  · cases hi.symm.trans hl
    exact ⟨token, ht, hn, rfl⟩

-- The count is compared only for equality, so it has to be below the limit before the comparison.
theorem Sound.inside (h : s.Sound) {inner : Stepper} (hl : s.look = .inside inner) : inner.Sound := by
  obtain ⟨token, ht, hn, rfl⟩ := look_inside hl
  exact ⟨s.advance_current?, Nat.lt_of_le_of_ne h.2 hn⟩

theorem Sound.leave (h : s.Sound) : s.leave.Sound := ⟨h.1, Nat.le_trans (Nat.sub_le _ _) h.2⟩

theorem keeps_insideRaised (h : s.Sound) {inner : Stepper} {diagnostic : Diagnostic}
    (hl : s.look = .inside inner) (hk : Keeps 1 inner (.error diagnostic, s')) :
    Keeps 1 s (.error diagnostic, s') := by
  obtain ⟨token, ht, -, rfl⟩ := look_inside hl
  have hlt := h.lt_of_some ht
  obtain ⟨htokens, hsound, hforward, hbehind, -, hraised⟩ := hk
  obtain ⟨hnesting, hplace⟩ := hraised diagnostic rfl
  simp only [Stepper.advance] at htokens hforward hbehind hnesting
  exact {
    tokens := htokens
    sound := hsound
    forward := Nat.le_of_succ_le hforward
    behind := .inr (hbehind.elim (fun he => he ▸ hlt) id)
    returned := by
      intro _ he
      cases he
    raised := by
      rintro _ ⟨⟩
      exact ⟨Nat.le_of_succ_le hnesting, hplace⟩ }

theorem keeps_inside (h : s.Sound) {inner : Stepper} (hl : s.look = .inside inner)
    (hk : Keeps 1 inner (.ok tree, s')) : Keeps 1 s (.ok tree, s'.leave) := by
  obtain ⟨token, ht, -, rfl⟩ := look_inside hl
  have hlt := h.lt_of_some ht
  obtain ⟨htokens, hsound, hforward, hbehind, hreturned, -⟩ := hk
  obtain ⟨hnesting, -⟩ := hreturned tree rfl
  simp only [Stepper.advance] at htokens hforward hbehind hnesting
  exact {
    tokens := htokens
    sound := hsound.leave
    forward := Nat.le_of_succ_le hforward
    behind := .inr (hbehind.elim (fun he => he ▸ hlt) id)
    returned := by
      intro _ _
      refine ⟨?_, hforward⟩
      rw [leave, hnesting]
      rfl
    raised := by
      intro _ he
      cases he }

theorem keeps_close (hk : Keeps 1 s (.ok tree, s'.leave)) (tree' : Tree) :
    Keeps 1 s (s'.close tree') := by
  have hs : s'.leave.Sound := hk.sound
  obtain ⟨fault, hf⟩ | ⟨token, ht, hc⟩ := close_cases tree' s'
  · rw [hf]
    exact hk.trans (keeps_fail hs fault 0)
  · rw [hc]
    exact (hk.trans (keeps_advance hs ht tree')).mono (by decide)

theorem taken_operand (level : Level) : level.operand.taken = 1 := by
  cases level <;> rfl

theorem Runs.keeps (h : Runs call s outcome) (hs : s.Sound) : Keeps call.taken s outcome := by
  induction h with
  | @chainRaised level _ _ _ _ ih =>
    have hk := ih hs
    rw [taken_operand] at hk
    exact hk
  | @chain level _ _ _ _ _ _ ihf ihm =>
    have hk := ihf hs
    rw [taken_operand] at hk
    exact hk.trans (ihm hk.sound)
  | @stop level s left other => exact keeps_stay hs left
  | @nextRaised level s _ left _ _ operator _ ih =>
    obtain ⟨token, ht⟩ := exists_of_operator? operator
    exact ((keeps_advance hs ht left).trans (ih hs.advance)).mono (Nat.zero_le _)
  | @next level s _ left _ _ _ operator _ _ ihn ihm =>
    obtain ⟨token, ht⟩ := exists_of_operator? operator
    have hk := (keeps_advance hs ht left).trans (ihn hs.advance)
    exact (hk.trans (ihm hk.sound)).mono (Nat.zero_le _)
  | factor look => exact look_read_keeps hs look
  | insideRaised look _ ih => exact keeps_insideRaised hs look (ih (hs.inside look))
  | inside look _ ih => exact keeps_close (keeps_inside hs look (ih (hs.inside look))) _

structure Moves (s : Stepper) (command : Session.Command) (response : Session.Response)
    (next : Stepper) : Prop where
  tokens : next.tokens = s.tokens
  sound : next.Sound
  forward : s.offset ≤ next.offset
  behind : s.tokens.length < next.offset →
    next.offset = s.offset ∨ command = .advance ∧ s.tokens.length ≤ s.offset
  returned : ∀ tree, response = .tree (.ok tree) → next.nesting = s.nesting ∧
    s.offset < next.offset ∧ next.offset ≤ s.tokens.length
  raised : ∀ diagnostic, response = .tree (.error diagnostic) →
    s.nesting ≤ next.nesting ∧ next.diagnose diagnostic.message = diagnostic

theorem Keeps.moves (h : Keeps 1 s outcome) (command : Session.Command) :
    s.Moves command (.tree outcome.1) outcome.2 where
  tokens := h.tokens
  sound := h.sound
  forward := h.forward
  behind hlt := .inl (h.behind.resolve_right (Nat.not_le_of_lt hlt))
  returned tree he := by
    obtain ⟨hnesting, hoffset⟩ := h.returned tree (Session.Response.tree.inj he)
    have := h.behind
    omega
  raised diagnostic he := h.raised diagnostic (Session.Response.tree.inj he)

theorem moves_stay (h : s.Sound) (hr : ∀ result, response ≠ .tree result) :
    s.Moves command response s where
  tokens := rfl
  sound := h
  forward := Nat.le_refl _
  behind _ := .inl rfl
  returned _ he := absurd he (hr _)
  raised _ he := absurd he (hr _)

theorem moves_advance (h : s.Sound) : s.Moves .advance .nothing s.advance where
  tokens := rfl
  sound := h.advance
  forward := Nat.le_succ _
  behind hl := .inr ⟨rfl, Nat.lt_succ_iff.mp hl⟩
  returned _ he := by cases he
  raised _ he := by cases he

theorem keeps_finish (hk : Keeps 1 s (.ok tree, s')) : Keeps 1 s (s'.finish tree) := by
  rw [finish]
  split
  · exact hk
  · exact hk.trans (keeps_fail hk.sound _ 0)

theorem Performs.moves (h : Performs s command response s') (hs : s.Sound) :
    s.Moves command response s' := by
  cases h with
  | expression run => exact (run.keeps hs).moves _
  | term run => exact (run.keeps hs).moves _
  | factor run => exact (run.keeps hs).moves _
  | parseRaised run => exact (run.keeps hs).moves _
  | parse run => exact (keeps_finish (run.keeps hs)).moves _
  | advance => exact moves_advance hs
  | remaining => exact moves_stay hs (by simp)
  | endPosition => exact moves_stay hs (by simp)
  | isSymbol symbols => exact moves_stay hs (by simp)
  | error message => exact moves_stay hs (by simp)

theorem After.unique (h₁ : After s calls s₁) (h₂ : After s calls s₂) : s₁ = s₂ := by
  induction h₁ with
  | none s =>
    cases h₂
    rfl
  | call performs _ ih =>
    cases h₂ with
    | call performs' further =>
      obtain ⟨rfl, rfl⟩ := performs.unique performs'
      exact ih further

theorem After.sound (h : After s calls s') (hs : s.Sound) : s'.Sound ∧ s'.tokens = s.tokens := by
  induction h with
  | none s => exact ⟨hs, rfl⟩
  | call performs _ ih =>
    have hm := performs.moves hs
    obtain ⟨hsound, htokens⟩ := ih hm.sound
    exact ⟨hsound, htokens.trans hm.tokens⟩

end Stepper

end Calculator

import Calculator.Proofs.Columns
import Calculator.Proofs.DigitLimit
import Calculator.Proofs.Failures

/-!
The place of an error at the end of the input. It is taken from the text that is shown of the last token,
and a numeral is shown without the zeros at its beginning: so many columns short of the end it falls.
-/

namespace Calculator

namespace Numeral

variable {ds : List Char} {c d : Char}

def leadingZeros (ds : List Char) : Nat := (ds.dropLast.takeWhile (Digit.value · = 0)).length

theorem value_cons (c : Char) (ds : List Char) :
    value (c :: ds) = Digit.value c * 10 ^ ds.length + value ds := by
  induction ds using List.reverseRecOn with
  | nil => simp [value]
  | append_singleton ds d ih =>
    rw [← List.cons_append, value_append_singleton, ih, value_append_singleton, List.length_append,
      List.length_singleton, Nat.pow_succ, Nat.mul_add, Nat.mul_left_comm,
      Nat.mul_comm 10 (10 ^ ds.length), Nat.add_assoc]

theorem length_toDigits_value (h : Digit.value d ≠ 0 ∨ ds = []) :
    (Nat.toDigits 10 (value (d :: ds))).length = ds.length + 1 := by
  have hupper : (Nat.toDigits 10 (value (d :: ds))).length ≤ ds.length + 1 :=
    (Nat.length_toDigits_le_iff (by decide) (Nat.succ_pos _)).mpr (value_lt (d :: ds))
  apply Nat.le_antisymm hupper
  cases ds with
  | nil => exact List.length_pos_iff.mpr Nat.toDigits_ne_nil
  | cons e es =>
    have hd : 1 ≤ Digit.value d := Nat.one_le_iff_ne_zero.mpr (h.resolve_right (by simp))
    have hvalue : 10 ^ (e :: es).length ≤ value (d :: e :: es) := by
      rw [value_cons]
      exact Nat.le_add_right_of_le (Nat.le_mul_of_pos_left _ hd)
    apply Nat.lt_of_not_le
    intro hle
    have hlt := (Nat.length_toDigits_le_iff (by decide) (by simp)).mp hle
    omega

theorem length_shown (hne : ds ≠ []) :
    (Nat.toDigits 10 (value ds)).length + leadingZeros ds = ds.length := by
  induction ds with
  | nil => exact absurd rfl hne
  | cons c ds ih =>
    cases ds with
    | nil => exact length_toDigits_value (.inr rfl)
    | cons d ds =>
      rw [leadingZeros, List.dropLast_cons_cons, List.takeWhile_cons]
      by_cases hc : Digit.value c = 0
      · have hi := ih (by simp)
        have hvalue : value (c :: d :: ds) = value (d :: ds) := by rw [value_cons, hc]; omega
        rw [leadingZeros] at hi
        simp only [hc, decide_true, if_true, List.length_cons, hvalue] at hi ⊢
        omega
      · rw [length_toDigits_value (.inl hc)]
        simp [hc]

end Numeral

section Last

variable {text : String} {earlier : List Stretch} {s : Stretch} {tail source : List Char}
variable {tokens : List Token} {lexeme : Lexeme} {failure : Failure} {wanted : Wanted}

def Lexeme.unshown : Lexeme → List Char → Nat
  | .number _, source => Numeral.leadingZeros source
  | _, _ => 0

theorem Spelt.length_text (h : Spelt lexeme source) :
    lexeme.text.length + lexeme.unshown source = source.length := by
  cases h with
  | number nonempty digits =>
    have ht : (Lexeme.number (Numeral.value source)).text.toList =
        Nat.toDigits 10 (Numeral.value source) := Nat.toList_repr
    rw [← String.length_toList, ht]
    exact Numeral.length_shown nonempty
  | identifier letter parts =>
    rw [← String.length_toList, Lexeme.text, String.toList_ofList]
    rfl
  | symbol noBlank noDigit noLetter => simp [Lexeme.text, Lexeme.unshown]

theorem getLast?_of_cut (hc : Cuts text.toList (earlier ++ [s]) tail)
    (ht : (Scan.ofText text).result = .ok tokens) : tokens.getLast? =
      some ⟨s.lexeme, Position.start.past (earlier.flatMap Stretch.chars ++ s.blanks)⟩ := by
  obtain ⟨-, rfl⟩ := (result_ok_iff hc tokens).mp ht
  obtain ⟨-, rest, hsplit⟩ := hc.split
  rw [List.getLast?_eq_getElem?, length_tokensOver, List.length_append, List.length_singleton,
    Nat.add_sub_cancel, getElem?_tokensOver, Cursor.advance_run hsplit]
  rfl

theorem position_of_early_end (ht : Tree.parse tokens = .error failure)
    (hf : failure.fault = .unexpectedEnd wanted) :
    (failure.diagnostic tokens).position = endPosition tokens := by
  have hw : failure.Within 0 tokens := Tree.whole_failsWithin (Nat.zero_add _) ht
  rw [Failure.diagnostic, hw.atEnd.mpr ⟨wanted, hf⟩]
  rfl

theorem exists_last_cut (ht : (Scan.ofText text).result = .ok tokens) (hne : tokens ≠ []) :
    ∃ earlier s tail, Cuts text.toList (earlier ++ [s]) tail := by
  obtain ⟨stretches, tail, hc⟩ := exists_cuts text.toList
  rcases List.eq_nil_or_concat stretches with rfl | ⟨earlier, s, rfl⟩
  · obtain ⟨-, rfl⟩ := (result_ok_iff hc tokens).mp ht
    exact absurd rfl hne
  · rw [List.concat_eq_append] at hc
    exact ⟨earlier, s, tail, hc⟩

theorem cuts_opened (ds : List Char) (nonempty : ds ≠ []) (digits : ds.all isDigit = true) :
    Cuts ('(' :: ds) ([⟨[], ['('], .symbol "("⟩] ++ [⟨[], ds, .number (Numeral.value ds)⟩]) [] := by
  have hend : Cuts [] [] [] := .tail (by simp)
  have hnumeral := Cuts.stretch (s := ⟨[], ds, .number (Numeral.value ds)⟩) (by simp)
    (.number nonempty (List.all_eq_true.mp digits)) (by simp [Lexeme.Closes]) hend
  have hopen : Spelt (.symbol "(") ['('] :=
    .symbol (c := '(') (by decide) (by decide) (by decide)
  have hopening := Cuts.stretch (s := ⟨[], ['('], .symbol "("⟩) (by simp) hopen trivial hnumeral
  simpa using hopening

theorem early_end_short_of_zeros (ht : (Scan.ofText text).result = .ok tokens) (hne : tokens ≠ [])
    (hp : Tree.parse tokens = .error failure) (hf : failure.fault = .unexpectedEnd wanted) :
    ∃ earlier s tail last, Cuts text.toList (earlier ++ [s]) tail ∧
      tokens.getLast? = some last ∧ last.lexeme = s.lexeme ∧
      last.position = Position.start.past (earlier.flatMap Stretch.chars ++ s.blanks) ∧
      (failure.diagnostic tokens).position.right (s.lexeme.unshown s.source) =
        last.position.right s.source.length ∧
      ((failure.diagnostic tokens).position = last.position.right s.source.length ↔
        s.lexeme.unshown s.source = 0) := by
  obtain ⟨earlier, s, tail, hc⟩ := exists_last_cut ht hne
  have hlast := getLast?_of_cut hc ht
  have hlength := hc.split.1.length_text
  refine ⟨earlier, s, tail, _, hc, hlast, rfl, rfl, ?_⟩
  rw [position_of_early_end hp hf, endPosition, hlast]
  simp only [Token.text, Position.right, Position.mk.injEq, true_and]
  omega

theorem forty_with_zero_ends_short :
    (Scan.ofText "(٠٤٠").result = .ok [⟨.symbol "(", ⟨1, 0⟩⟩, ⟨.number 40, ⟨1, 1⟩⟩] ∧
    Tree.parse [⟨.symbol "(", ⟨1, 0⟩⟩, ⟨.number 40, ⟨1, 1⟩⟩] =
      .error ⟨.unexpectedEnd .closing, [], 0⟩ ∧
    ((⟨.unexpectedEnd .closing, [], 0⟩ : Failure).diagnostic
      [⟨.symbol "(", ⟨1, 0⟩⟩, ⟨.number 40, ⟨1, 1⟩⟩]).position.right 1 =
        (⟨1, 1⟩ : Position).right ['٠', '٤', '٠'].length := by
  have hscan : (Scan.ofText "(٠٤٠").result =
      .ok [⟨.symbol "(", ⟨1, 0⟩⟩, ⟨.number 40, ⟨1, 1⟩⟩] := by decide +kernel
  have hparse : Tree.parse [⟨.symbol "(", ⟨1, 0⟩⟩, ⟨.number 40, ⟨1, 1⟩⟩] =
      .error ⟨.unexpectedEnd .closing, [], 0⟩ := by decide +kernel
  obtain ⟨earlier, s, tail, last, hcut, hlast, -, -, hplace, -⟩ :=
    early_end_short_of_zeros hscan (by simp) hparse rfl
  obtain ⟨hstretches, -⟩ :=
    cuts_unique hcut (cuts_opened ['٠', '٤', '٠'] (by simp) (by decide)) rfl
  obtain ⟨-, hs⟩ := List.append_inj' hstretches rfl
  cases hs
  cases hlast
  exact ⟨hscan, hparse, hplace⟩

theorem early_end_inside_numeral : ∃ tokens last failure,
    Cuts "(007".toList ([⟨[], ['('], .symbol "("⟩] ++ [⟨[], ['0', '0', '7'], .number 7⟩]) [] ∧
    (Scan.ofText "(007").result = .ok tokens ∧ tokens.getLast? = some last ∧
    Tree.parse tokens = .error failure ∧ failure.fault = .unexpectedEnd .closing ∧
    (failure.diagnostic tokens).position = ⟨1, 2⟩ ∧
    (failure.diagnostic tokens).position ≠ last.position.right ['0', '0', '7'].length := by
  refine ⟨[⟨.symbol "(", ⟨1, 0⟩⟩, ⟨.number 7, ⟨1, 1⟩⟩], _, ⟨.unexpectedEnd .closing, [], 0⟩,
    cuts_opened ['0', '0', '7'] (by simp) (by decide), by decide +kernel, rfl,
    by decide +kernel, rfl, by decide +kernel, by decide +kernel⟩

end Last

end Calculator

import Calculator.Proofs.CursorRuns
import Mathlib.Data.List.DropRight

/-!
Columns of tokens. On the first line a token's column is the number of characters before it on its line;
on every later line it is one more, so the same line has other columns when it is not the first one.
-/

namespace Calculator

variable {text : String} {cs before line tail : List Char} {s : Stretch} {token : Token}
variable {stretches earlier later : List Stretch}

def lineBefore (before : List Char) : List Char := before.rtakeWhile (· ≠ '\n')

theorem lineBefore_of_no_newline (h : '\n' ∉ before) : lineBefore before = before := by
  rw [lineBefore, List.rtakeWhile_eq_self_iff]
  intro c hc
  simpa using fun he : c = '\n' => h (he ▸ hc)

theorem lineBefore_newline (before : List Char) (h : '\n' ∉ line) :
    lineBefore (before ++ '\n' :: line) = line := by
  have hline : ∀ c ∈ line.reverse, decide (c ≠ '\n') = true := by
    intro c hc
    simpa using fun he : c = '\n' => h (he ▸ List.mem_reverse.mp hc)
  have hrun : (line.reverse ++ '\n' :: before.reverse).takeWhile _ = line.reverse :=
    takeWhile_run hline (by simp)
  rw [lineBefore, List.rtakeWhile, List.reverse_append, List.reverse_cons, List.append_assoc,
    List.singleton_append, hrun, List.reverse_reverse]

theorem start_past (before : List Char) : Position.start.past before =
    ⟨1 + before.count '\n', (lineBefore before).length + if '\n' ∈ before then 1 else 0⟩ := by
  rw [Position.mk.injEq]
  refine ⟨Position.past_line _ _, ?_⟩
  by_cases h : '\n' ∈ before
  · obtain ⟨earlier, line, rfl, hline⟩ := exists_last_newline h
    rw [Position.past_newline _ _ hline, lineBefore_newline _ hline, if_pos h]
  · rw [Position.past_of_no_newline h, lineBefore_of_no_newline h, if_neg h]
    simp [Position.right, Position.start]

section Cut

def Stretch.chars (s : Stretch) : List Char := s.blanks ++ s.source

theorem Cuts.split (h : Cuts cs (earlier ++ s :: later) tail) : Spelt s.lexeme s.source ∧
    ∃ rest, cs = earlier.flatMap Stretch.chars ++ s.blanks ++ (s.source ++ rest) := by
  induction earlier generalizing cs with
  | nil =>
    cases h with
    | @stretch _ rest _ _ _ spelt => exact ⟨spelt, rest, by simp⟩
  | cons first earlier ih =>
    cases h with
    | stretch _ _ _ next =>
      obtain ⟨spelt, rest, rfl⟩ := ih next
      exact ⟨spelt, rest, by simp [Stretch.chars]⟩

theorem tokensOver_append (cursor : Cursor) (earlier later : List Stretch) :
    cursor.tokensOver (earlier ++ later) = cursor.tokensOver earlier ++
      (Cursor.advance^[(earlier.flatMap Stretch.chars).length] cursor).tokensOver later := by
  induction earlier generalizing cursor with
  | nil => rfl
  | cons s earlier ih =>
    have hlength : ((s :: earlier).flatMap Stretch.chars).length =
        (earlier.flatMap Stretch.chars).length + (s.source.length + s.blanks.length) := by
      simp only [List.flatMap_cons, Stretch.chars, List.length_append]
      omega
    rw [List.cons_append, Cursor.tokensOver, ih, hlength, Function.iterate_add_apply,
      Function.iterate_add_apply]
    rfl

theorem length_tokensOver (cursor : Cursor) (stretches : List Stretch) :
    (cursor.tokensOver stretches).length = stretches.length := by
  simpa using congrArg List.length (cursor.map_lexeme_tokensOver stretches)

theorem getElem?_tokensOver (cursor : Cursor) (earlier : List Stretch) (s : Stretch)
    (later : List Stretch) : (cursor.tokensOver (earlier ++ s :: later))[earlier.length]? =
      some ⟨s.lexeme, (Cursor.advance^[(earlier.flatMap Stretch.chars ++ s.blanks).length]
        cursor).position⟩ := by
  have hlength := length_tokensOver cursor earlier
  rw [tokensOver_append, List.getElem?_append_right (Nat.le_of_eq hlength), hlength, Nat.sub_self,
    Cursor.tokensOver, List.getElem?_cons_zero, List.length_append, Nat.add_comm,
    Function.iterate_add_apply]

theorem scan_begins (h : Cuts text.toList stretches tail) :
    (Scan.ofText text).tokens <+: (Cursor.ofText text.toList).tokensOver stretches := by
  have hsplit := tokensOver_append (Cursor.ofText text.toList)
    (stretches.takeWhile (!·.oversized)) (stretches.dropWhile (!·.oversized))
  rw [List.takeWhile_append_dropWhile] at hsplit
  rw [scan_cuts h]
  exact ⟨_, hsplit.symm⟩

theorem lexeme_position_of_cut (hc : Cuts text.toList (earlier ++ s :: later) tail)
    (ht : (Scan.ofText text).tokens[earlier.length]? = some token) :
    token = ⟨s.lexeme, Position.start.past (earlier.flatMap Stretch.chars ++ s.blanks)⟩ := by
  obtain ⟨-, rest, hsplit⟩ := hc.split
  obtain ⟨more, hmore⟩ := scan_begins hc
  have hover := getElem?_tokensOver (Cursor.ofText text.toList) earlier s later
  have hlt := (List.getElem?_eq_some_iff.mp ht).1
  rw [← hmore, List.getElem?_append_left hlt, ht] at hover
  rw [Option.some.inj hover, Cursor.advance_run hsplit]
  rfl

end Cut

def Behind (text : String) (before : List Char) (token : Token) : Prop :=
  ∃ earlier s later tail, Cuts text.toList (earlier ++ s :: later) tail ∧
    before = earlier.flatMap Stretch.chars ++ s.blanks ∧
    (Scan.ofText text).tokens[earlier.length]? = some token

theorem exists_behind (h : token ∈ (Scan.ofText text).tokens) : ∃ before, Behind text before token := by
  obtain ⟨stretches, tail, hc⟩ := exists_cuts text.toList
  obtain ⟨i, hi⟩ := List.mem_iff_getElem?.mp h
  obtain ⟨hlt, -⟩ := List.getElem?_eq_some_iff.mp hi
  have hi' : i < stretches.length := by
    rw [← length_tokensOver (Cursor.ofText text.toList)]
    exact Nat.lt_of_lt_of_le hlt (scan_begins hc).length_le
  have hsplit : stretches.take i ++ stretches[i] :: stretches.drop (i + 1) = stretches := by simp
  have htake : (stretches.take i).length = i := List.length_take_of_le (Nat.le_of_lt hi')
  exact ⟨_, stretches.take i, stretches[i], _, tail, hsplit.symm ▸ hc, rfl, htake.symm ▸ hi⟩

theorem position_of_behind (h : Behind text before token) :
    token.position = Position.start.past before := by
  obtain ⟨earlier, s, later, tail, hc, rfl, ht⟩ := h
  rw [lexeme_position_of_cut hc ht]

theorem columns_from_line_beginnings (text : String) :
    (∀ token ∈ (Scan.ofText text).tokens, ∃ before, Behind text before token) ∧
    ∀ before token, Behind text before token →
      token.position =
        ⟨1 + before.count '\n', (lineBefore before).length + if '\n' ∈ before then 1 else 0⟩ ∧
      ∀ text' before' token', Behind text' before' token' → lineBefore before' = lineBefore before →
        (token'.position.column = token.position.column ↔ ('\n' ∈ before' ↔ '\n' ∈ before)) := by
  refine ⟨fun token h => exists_behind h, fun before token h => ?_⟩
  have hp := (position_of_behind h).trans (start_past before)
  refine ⟨hp, fun text' before' token' h' hline => ?_⟩
  rw [hp, position_of_behind h', start_past, hline]
  by_cases hn : '\n' ∈ before <;> by_cases hn' : '\n' ∈ before' <;>
    simp only [hn, hn', if_true, if_false, iff_true, iff_false, not_true] <;> omega

theorem name_on_second_line : ∃ first second : Token,
    (Scan.ofText "x\nx").result = .ok [first, second] ∧
    Behind "x\nx" [] first ∧ Behind "x\nx" ['x', '\n'] second ∧
    lineBefore [] = lineBefore ['x', '\n'] ∧
    first.position.column = (lineBefore []).length ∧
    second.position.column ≠ (lineBefore ['x', '\n']).length := by
  have hx : Spelt (.identifier "x") ['x'] := .identifier (c := 'x') (by decide) (by simp)
  have hline : Cuts ['\n', 'x'] [⟨['\n'], ['x'], .identifier "x"⟩] [] :=
    .stretch (s := ⟨['\n'], ['x'], .identifier "x"⟩) (List.forall_mem_singleton.mpr (by decide)) hx
      (by simp [Lexeme.Closes]) (.tail (by simp))
  have hcut : Cuts "x\nx".toList
      [⟨[], ['x'], .identifier "x"⟩, ⟨['\n'], ['x'], .identifier "x"⟩] [] :=
    .stretch (s := ⟨[], ['x'], .identifier "x"⟩) (by simp) hx (by simp [Lexeme.Closes]; decide) hline
  refine ⟨⟨.identifier "x", ⟨1, 0⟩⟩, ⟨.identifier "x", ⟨2, 1⟩⟩, by decide +kernel,
    ⟨[], _, _, [], hcut, rfl, by decide +kernel⟩, ⟨[_], _, [], [], hcut, rfl, by decide +kernel⟩,
    by decide, by decide, by decide⟩

end Calculator

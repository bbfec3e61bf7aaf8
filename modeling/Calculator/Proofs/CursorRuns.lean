import Calculator.Proofs.LongestCut
import Mathlib.Order.Bounds.Basic

/-!
Where a cursor stands, whatever was called before. Every call advances some times, so the number of
characters passed tells what is left of the text and which place is reached; and only `advance` itself
goes on behind the end of the text.
-/

namespace Calculator

namespace Position

variable {line : List Char}

theorem right_zero (p : Position) : p.right 0 = p := by simp [right]

theorem right_right (p : Position) (m n : Nat) : (p.right m).right n = p.right (m + n) := by
  simp [right, Int.add_assoc]

theorem past_line (p : Position) (cs : List Char) : (p.past cs).line = p.line + cs.count '\n' := by
  induction cs generalizing p with
  | nil => simp
  | cons c cs ih =>
    rw [past_cons, ih]
    by_cases hc : c = '\n'
    · subst hc
      rw [after_newline, List.count_cons_self]
      simp only
      omega
    · rw [after_of_ne hc, List.count_cons_of_ne hc]
      rfl

theorem past_newline (p : Position) (before : List Char) (h : '\n' ∉ line) :
    (p.past (before ++ '\n' :: line)).column = line.length + 1 := by
  rw [past_append, past_cons, after_newline, past_of_no_newline h]
  simp only [right]
  omega

end Position

theorem exists_last_newline {cs : List Char} (h : '\n' ∈ cs) :
    ∃ before line, cs = before ++ '\n' :: line ∧ '\n' ∉ line := by
  obtain ⟨line, before, he, hline⟩ := List.eq_append_cons_of_mem (List.mem_reverse.mpr h)
  refine ⟨before.reverse, line.reverse, ?_, by simpa using hline⟩
  have hr := congrArg List.reverse he
  simpa using hr

theorem isGreatest_last_newline {before last : List Char} (h : '\n' ∉ last) :
    IsGreatest {i | (before ++ '\n' :: last)[i]? = some '\n'} before.length := by
  constructor
  · simp
  · intro i hi
    apply Nat.le_of_not_lt
    intro hlt
    obtain ⟨k, rfl⟩ := Nat.exists_eq_add_of_lt hlt
    have hk : last[k]? = some '\n' := by
      rw [Set.mem_ofPred_eq, List.getElem?_append_right (by omega)] at hi
      simpa [Nat.add_assoc] using hi
    exact h (List.mem_of_getElem? hk)

namespace Cursor

variable {cursor reached : Cursor} {text : List Char} {place : Position} {token : Token} {n : Nat}

section Advance

theorem rest_advance (n : Nat) (cursor : Cursor) :
    (Cursor.advance^[n] cursor).rest = cursor.rest.drop n := by
  induction n generalizing cursor with
  | zero => rfl
  | succ n ih =>
    rw [Function.iterate_succ_apply, ih, advance]
    cases cursor.rest <;> simp

theorem offset_advance (n : Nat) (cursor : Cursor) :
    (Cursor.advance^[n] cursor).offset = cursor.offset + n := by
  induction n generalizing cursor with
  | zero => rfl
  | succ n ih =>
    rw [Function.iterate_succ_apply, ih, advance]
    cases cursor.rest <;> simp only <;> omega

def standing (text : List Char) (n : Nat) : Cursor :=
  ⟨text.drop n, n, (Position.start.past (text.take n)).right (n - text.length)⟩

theorem standing_zero (text : List Char) : standing text 0 = ofText text := by
  simp [standing, ofText, Position.right_zero]

theorem advance_standing (text : List Char) (n : Nat) :
    (standing text n).advance = standing text (n + 1) := by
  rcases Nat.lt_or_ge n text.length with hn | hn
  · have hrest : text.drop n = text[n] :: text.drop (n + 1) := List.drop_eq_getElem_cons hn
    have hpassed : text.take (n + 1) = text.take n ++ [text[n]] := List.take_succ_eq_append_getElem hn
    have h0 : n - text.length = 0 := by omega
    have h1 : n + 1 - text.length = 0 := by omega
    simp only [advance, standing, hrest, hpassed, h0, h1, Position.past_append, Position.past_cons,
      Position.past_nil, Position.right_zero]
  · have hrest : text.drop n = [] := List.drop_eq_nil_of_le hn
    have hrest' : text.drop (n + 1) = [] := List.drop_eq_nil_of_le (by omega)
    have hpassed : text.take (n + 1) = text.take n := by
      rw [List.take_of_length_le hn, List.take_of_length_le (by omega)]
    have hbehind : n + 1 - text.length = n - text.length + 1 := by omega
    simp only [advance, standing, hrest, hrest', hpassed, hbehind, Position.right_right]

theorem iterate_advance_standing (text : List Char) (n k : Nat) :
    Cursor.advance^[k] (standing text n) = standing text (n + k) := by
  induction k with
  | zero => rfl
  | succ k ih =>
    rw [Function.iterate_succ_apply', ih, advance_standing]
    rfl

end Advance

section Calls

def Reaches (cursor reached : Cursor) : Prop :=
  ∃ n, n ≤ cursor.rest.length ∧ reached = Cursor.advance^[n] cursor

theorem Reaches.refl (cursor : Cursor) : cursor.Reaches cursor := ⟨0, Nat.zero_le _, rfl⟩

theorem Reaches.trans {later : Cursor} (h : cursor.Reaches reached) (h' : reached.Reaches later) :
    cursor.Reaches later := by
  obtain ⟨n, hn, rfl⟩ := h
  obtain ⟨k, hk, rfl⟩ := h'
  rw [rest_advance, List.length_drop] at hk
  exact ⟨k + n, by omega, (Function.iterate_add_apply _ k n cursor).symm⟩

theorem reaches_skip (p : Char → Bool) (cursor : Cursor) : cursor.Reaches (cursor.skip p) := by
  have hc : cursor.rest = cursor.span p ++ cursor.rest.dropWhile p :=
    List.takeWhile_append_dropWhile.symm
  have hl := skip_length p cursor
  exact ⟨(cursor.span p).length, by omega, (advance_run hc).symm⟩

theorem reaches_next (cursor : Cursor) : cursor.Reaches cursor.next.2 := by
  have hblanks : cursor.Reaches cursor.skipBlanks := reaches_skip isBlank cursor
  rw [next]
  cases hr : cursor.skipBlanks.rest with
  | nil => exact hblanks
  | cons c rest =>
    dsimp only
    refine hblanks.trans ?_
    split
    · exact reaches_skip isDigit _
    · split
      · exact reaches_skip isWordPart _
      · exact ⟨1, by simp [hr], rfl⟩

theorem perform_reaches (cursor : Cursor) (command : Command) :
    cursor.Reaches (cursor.perform command).2 ∨
      command = .advance ∧ (cursor.perform command).2 = cursor.advance := by
  cases command with
  | advance => exact .inr ⟨rfl, rfl⟩
  | skipBlanks => exact .inl (reaches_skip isBlank cursor)
  | number => exact .inl (reaches_skip isDigit cursor)
  | identifier => exact .inl (reaches_skip isWordPart cursor)
  | next => exact .inl (reaches_next cursor)
  | position => exact .inl (.refl cursor)

theorem Reaches.eq_of_end (h : cursor.Reaches reached) (he : cursor.rest = []) :
    reached = cursor := by
  obtain ⟨n, hn, rfl⟩ := h
  rw [he] at hn
  obtain rfl : n = 0 := Nat.le_zero.mp hn
  rfl

theorem Reaches.standing (h : (Cursor.standing text n).Reaches reached) :
    ∃ k, n ≤ k ∧ (k ≤ text.length ∨ k = n) ∧ reached = Cursor.standing text k := by
  obtain ⟨k, hk, rfl⟩ := h
  have hl : (Cursor.standing text n).rest.length = text.length - n := List.length_drop
  refine ⟨n + k, by omega, by omega, iterate_advance_standing text n k⟩

end Calls

section Standing

structure StandsIn (text : List Char) (cursor : Cursor) : Prop where
  current : cursor.rest.head? = text[cursor.offset]?
  line : cursor.position.line = 1 + (text.take cursor.offset).count '\n'
  firstLine : '\n' ∉ text.take cursor.offset → cursor.position.column = cursor.offset
  laterLine : '\n' ∈ text.take cursor.offset →
    ∃ i : Nat, IsGreatest {i | (text.take cursor.offset)[i]? = some '\n'} i ∧
      cursor.position.column = cursor.offset - i

theorem standsIn_standing (text : List Char) (n : Nat) : (standing text n).StandsIn text where
  current := List.head?_drop
  line := by
    rw [standing, Position.right, Position.past_line]
    rfl
  firstLine := by
    intro (h : '\n' ∉ text.take n)
    have hlength : (text.take n).length = min n text.length := List.length_take
    rw [standing, Position.past_of_no_newline h, Position.right_right]
    simp only [Position.right, Position.start]
    omega
  laterLine := by
    intro (h : '\n' ∈ text.take n)
    obtain ⟨before, line, he, hline⟩ := exists_last_newline h
    have hlength : (text.take n).length = min n text.length := List.length_take
    rw [he, List.length_append, List.length_cons] at hlength
    refine ⟨before.length, ?_, ?_⟩
    · rw [standing, he]
      exact isGreatest_last_newline hline
    · rw [standing, he, Position.right, Position.past_newline _ _ hline]
      simp only
      omega

end Standing

section Ending

theorem next_of_end (he : cursor.rest = []) :
    cursor.next = (.ok ⟨.ending, cursor.position⟩, cursor) := by
  have hs : cursor.skipBlanks = cursor := (reaches_skip isBlank cursor).eq_of_end he
  simp only [next, hs, he]

theorem next_of_blanks (hb : ∀ c ∈ cursor.rest, isBlank c = true) :
    cursor.next =
      (.ok ⟨.ending, (cursor.past cursor.rest []).position⟩, cursor.past cursor.rest []) := by
  rw [next_blanks hb (List.append_nil _).symm, next_of_end rfl]

theorem blanks_of_next_ending (h : cursor.next.1 = .ok ⟨.ending, place⟩) :
    ∀ c ∈ cursor.rest, isBlank c = true := by
  cases hr : cursor.skipBlanks.rest with
  | nil => exact List.dropWhile_eq_nil_iff.mp hr
  | cons c rest =>
    exfalso
    simp only [next, hr] at h
    split at h
    · obtain ⟨source, hs⟩ := source_of_number h
      exact hs.ne_ending rfl
    · split at h
      · cases h
      · cases h

theorem next_ending_iff : (∃ place, cursor.next.1 = .ok ⟨.ending, place⟩) ↔
    ∀ c ∈ cursor.rest, isBlank c = true := by
  constructor
  · rintro ⟨place, h⟩
    exact blanks_of_next_ending h
  · intro hb
    exact ⟨_, congrArg Prod.fst (next_of_blanks hb)⟩

theorem next_of_next_ending (h : cursor.next.1 = .ok ⟨.ending, place⟩) :
    cursor.next.2.rest = [] ∧ cursor.next.2.position = place := by
  have hn := next_of_blanks (blanks_of_next_ending h)
  rw [hn] at h ⊢
  cases h
  exact ⟨rfl, rfl⟩

theorem offset_lt_of_next (h : cursor.next.1 = .ok token) (ht : token.lexeme ≠ .ending) :
    cursor.offset < cursor.next.2.offset := by
  have hless : cursor.next.2.rest.length < cursor.rest.length := next_shorter (Prod.ext h rfl) ht
  obtain ⟨n, -, hn⟩ := reaches_next cursor
  rw [hn, rest_advance, List.length_drop] at hless
  rw [hn, offset_advance]
  omega

end Ending

section Runs

def after (cursor : Cursor) (calls : List Command) : Cursor :=
  calls.foldl (fun cursor command => (cursor.perform command).2) cursor

theorem after_cons (cursor : Cursor) (command : Command) (later : List Command) :
    cursor.after (command :: later) = (cursor.perform command).2.after later := rfl

theorem perform_standing (text : List Char) (n : Nat) (command : Command) :
    ∃ k, n ≤ k ∧ ((standing text n).perform command).2 = standing text k ∧
      (k ≤ text.length ∨ k = n ∨ command = .advance ∧ k = n + 1) := by
  rcases perform_reaches (standing text n) command with h | ⟨hcommand, h⟩
  · obtain ⟨k, hn, hk, he⟩ := h.standing
    exact ⟨k, hn, he, by omega⟩
  · exact ⟨n + 1, by omega, h.trans (advance_standing text n), .inr (.inr ⟨hcommand, rfl⟩)⟩

theorem after_standing (text : List Char) (n : Nat) (calls : List Command) :
    ∃ k, n ≤ k ∧ (standing text n).after calls = standing text k := by
  induction calls generalizing n with
  | nil => exact ⟨n, Nat.le_refl n, rfl⟩
  | cons command later ih =>
    obtain ⟨k, hn, he, -⟩ := perform_standing text n command
    obtain ⟨m, hk, hm⟩ := ih k
    exact ⟨m, Nat.le_trans hn hk, by rw [after_cons, he, hm]⟩

theorem rest_after_of_end (he : cursor.rest = []) (calls : List Command) :
    (cursor.after calls).rest = [] := by
  induction calls generalizing cursor with
  | nil => exact he
  | cons command later ih =>
    have hs : (cursor.perform command).2.rest = [] := by
      rcases perform_reaches cursor command with h | ⟨-, h⟩
      · rw [h.eq_of_end he, he]
      · rw [h, advance, he]
    exact ih hs

theorem after_of_end (he : cursor.rest = []) {calls : List Command} (hc : .advance ∉ calls) :
    cursor.after calls = cursor := by
  induction calls with
  | nil => rfl
  | cons command later ih =>
    rw [List.mem_cons, not_or] at hc
    have hs : (cursor.perform command).2 = cursor := by
      rcases perform_reaches cursor command with h | ⟨rfl, -⟩
      · exact h.eq_of_end he
      · exact absurd rfl hc.1
    rw [after_cons, hs, ih hc.2]

theorem cursor_after_any_calls (text : List Char) (calls : List Command) :
    let cursor := (ofText text).after calls
    cursor.StandsIn text ∧
    (∀ command, cursor.offset ≤ (cursor.perform command).2.offset ∧
      (text.length < (cursor.perform command).2.offset →
        (cursor.perform command).2 = cursor ∨ command = .advance ∧ text.length ≤ cursor.offset)) ∧
    ((∃ place, cursor.next.1 = .ok ⟨.ending, place⟩) ↔
      ∀ c ∈ text.drop cursor.offset, isBlank c = true) ∧
    (∀ token, cursor.next.1 = .ok token → token.lexeme ≠ .ending →
      cursor.offset < cursor.next.2.offset) ∧
    ∀ place, cursor.next.1 = .ok ⟨.ending, place⟩ → ∀ later,
      let further := cursor.next.2.after later
      further.next = (.ok ⟨.ending, further.position⟩, further) ∧
        (.advance ∉ later → further = cursor.next.2 ∧ further.position = place) := by
  obtain ⟨n, -, hn⟩ := after_standing text 0 calls
  rw [standing_zero] at hn
  simp only [hn]
  refine ⟨standsIn_standing text n, ?_, next_ending_iff, fun token => offset_lt_of_next, ?_⟩
  · intro command
    obtain ⟨k, hk, he, hbehind⟩ := perform_standing text n command
    rw [he]
    refine ⟨hk, fun hlength => ?_⟩
    have hk' : text.length < k := hlength
    rcases hbehind with hbehind | rfl | ⟨rfl, rfl⟩
    · omega
    · exact .inl rfl
    · exact .inr ⟨rfl, Nat.lt_succ_iff.mp hk'⟩
  · intro place h later
    obtain ⟨he, hplace⟩ := next_of_next_ending h
    refine ⟨next_of_end (rest_after_of_end he later), fun hl => ?_⟩
    rw [after_of_end he hl]
    exact ⟨rfl, hplace⟩

end Runs

end Cursor

end Calculator

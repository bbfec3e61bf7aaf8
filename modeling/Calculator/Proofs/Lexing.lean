import Calculator.Proofs.Source

namespace Calculator

namespace Cursor

variable {cursor after : Cursor} {token : Token} {lexeme : Lexeme}
variable {p : Char → Bool} {run source blanks rest : List Char}

def past (cursor : Cursor) (run rest : List Char) : Cursor :=
  ⟨rest, cursor.offset + run.length, cursor.position.past run⟩

theorem span_eq (hc : cursor.rest = run ++ rest) (hrun : ∀ c ∈ run, p c = true)
    (hrest : ∀ c ∈ rest.head?, p c = false) : cursor.span p = run := by
  rw [span, hc, List.takeWhile_append_of_pos hrun]
  cases rest with
  | nil => simp
  | cons c rest => simp [hrest c rfl]

theorem skip_eq (hc : cursor.rest = run ++ rest) (hrun : ∀ c ∈ run, p c = true)
    (hrest : ∀ c ∈ rest.head?, p c = false) : cursor.skip p = cursor.past run rest := by
  have hd : cursor.rest.dropWhile p = rest := by
    rw [hc, List.dropWhile_append_of_pos hrun]
    cases rest with
    | nil => rfl
    | cons c rest => simp [hrest c rfl]
  rw [skip, span_eq hc hrun hrest, hd, past]

theorem skipBlanks_eq {c : Char} (hc : cursor.rest = c :: rest) (hb : isBlank c = false) :
    cursor.skipBlanks = cursor := by
  have hs : cursor.skipBlanks = cursor.past [] (c :: rest) :=
    skip_eq hc (by simp) (by simpa using hb)
  rw [hs, past, ← hc]
  rfl

theorem next_cons {c : Char} (hc : cursor.rest = c :: rest) (hb : isBlank c = false) :
    cursor.next =
      if isDigit c then cursor.number
      else if isLetter c then (.ok cursor.identifier.1, cursor.identifier.2)
      else (.ok ⟨.symbol (String.singleton c), cursor.position⟩, cursor.past [c] rest) := by
  have ha : cursor.advance = cursor.past [c] rest := by
    rw [advance, hc]
    rfl
  simp only [next, skipBlanks_eq hc hb]
  split
  · rename_i hn
    cases hn.symm.trans hc
  · rename_i c' rest' hn
    cases hn.symm.trans hc
    rw [ha]

theorem next_digit {c : Char} (hc : cursor.rest = c :: rest) (hd : isDigit c = true) :
    cursor.next = cursor.number := by
  have hb : isBlank c = false := by
    rw [Bool.eq_false_iff]
    intro hb
    cases hd.symm.trans (not_isDigit_of_isBlank hb)
  rw [next_cons hc hb, if_pos hd]

theorem next_letter {c : Char} (hc : cursor.rest = c :: rest) (hl : isLetter c = true) :
    cursor.next = (.ok cursor.identifier.1, cursor.identifier.2) := by
  have hb : isBlank c = false := by
    rw [Bool.eq_false_iff]
    intro hb
    cases hl.symm.trans (not_isLetter_of_isBlank hb)
  have hd : ¬ isDigit c = true := by simp [not_isDigit_of_isLetter hl]
  rw [next_cons hc hb, if_neg hd, if_pos hl]

theorem next_other {c : Char} (hc : cursor.rest = c :: rest) (hb : isBlank c = false)
    (hd : isDigit c = false) (hl : isLetter c = false) :
    cursor.next = (.ok ⟨.symbol (String.singleton c), cursor.position⟩, cursor.past [c] rest) := by
  rw [next_cons hc hb, hd, if_neg Bool.false_ne_true, hl, if_neg Bool.false_ne_true]

theorem next_source (h : Source lexeme source) (hc : cursor.rest = source ++ rest)
    (hrest : lexeme.Closes rest) :
    cursor.next = (.ok ⟨lexeme, cursor.position⟩, cursor.past source rest) := by
  cases h with
  | number nonempty digits short =>
    obtain ⟨c, cs, rfl⟩ := List.exists_cons_of_ne_nil nonempty
    rw [next_digit hc (digits c List.mem_cons_self), number, span_eq hc digits hrest,
      skip_eq hc digits hrest, Numeral.read_eq_ok_iff.mpr ⟨nonempty, digits, short, rfl⟩]
    rfl
  | @identifier c cs letter parts =>
    have hparts : ∀ d ∈ c :: cs, isWordPart d = true := by
      intro d hd
      rcases List.mem_cons.mp hd with rfl | hd
      · exact isWordPart_of_isLetter letter
      · exact parts d hd
    rw [next_letter hc letter, identifier, span_eq hc hparts hrest, skip_eq hc hparts hrest]
  | symbol noBlank noDigit noLetter => exact next_other hc noBlank noDigit noLetter

theorem next_blanks (hblanks : ∀ c ∈ blanks, isBlank c = true)
    (hc : cursor.rest = blanks ++ rest) : cursor.next = (cursor.past blanks rest).next := by
  have hs : cursor.skipBlanks = (cursor.past blanks rest).skipBlanks := by
    simp only [skipBlanks, skip, span, past, hc, List.takeWhile_append_of_pos hblanks,
      List.dropWhile_append_of_pos hblanks, List.length_append, Position.past_append, Nat.add_assoc]
  simp only [next, hs]

theorem tokens_eq (cursor : Cursor) : cursor.tokens =
    match cursor.next with
    | (.error e, _) => ([], some e)
    | (.ok token, after) =>
      if token.lexeme = .ending then ([], none) else (token :: after.tokens.1, after.tokens.2) := by
  rw [tokens]
  split
  · rename_i hn
    rw [hn]
  · rename_i hn
    conv => rhs; rw [hn]
    rfl

theorem tokens_end (h : cursor.rest = []) : cursor.tokens = ([], none) := by
  have hs : cursor.skipBlanks.rest = [] := by
    rw [skipBlanks, skip, h]
    rfl
  rw [tokens_eq, next]
  simp only [hs]
  rfl

theorem tokens_source (h : Source lexeme source) (hc : cursor.rest = source ++ rest)
    (hrest : lexeme.Closes rest) : cursor.tokens =
      (⟨lexeme, cursor.position⟩ :: (cursor.past source rest).tokens.1,
        (cursor.past source rest).tokens.2) := by
  rw [tokens_eq, next_source h hc hrest]
  simp only [h.ne_ending, if_false]

theorem tokens_blanks (hblanks : ∀ c ∈ blanks, isBlank c = true)
    (hc : cursor.rest = blanks ++ rest) : cursor.tokens = (cursor.past blanks rest).tokens := by
  rw [tokens_eq, next_blanks hblanks hc, ← tokens_eq]

theorem source_of_number (h : cursor.number.1 = .ok token) :
    ∃ source, Source token.lexeme source := by
  cases hr : Numeral.read (cursor.span isDigit) with
  | error e =>
    rw [number, hr] at h
    cases h
  | ok n =>
    obtain ⟨nonempty, digits, short, rfl⟩ := Numeral.read_eq_ok_iff.mp hr
    rw [number, hr] at h
    cases h
    exact ⟨_, .number nonempty digits short⟩

theorem source_of_identifier {c : Char} (hc : cursor.rest = c :: rest) (hl : isLetter c = true) :
    ∃ source, Source cursor.identifier.1.lexeme source := by
  have hs : cursor.span isWordPart = c :: rest.takeWhile isWordPart := by
    rw [span, hc, List.takeWhile_cons, if_pos (isWordPart_of_isLetter hl)]
  rw [identifier, hs]
  exact ⟨_, .identifier hl fun d hd => List.all_eq_true.mp List.all_takeWhile d hd⟩

theorem not_isBlank_of_skipBlanks {c : Char} (h : cursor.skipBlanks.rest = c :: rest) :
    isBlank c = false := by
  have hr : cursor.rest.dropWhile isBlank = c :: rest := h
  have hd := List.head?_dropWhile_not isBlank cursor.rest
  rw [hr] at hd
  exact hd

theorem source_of_next (h : cursor.next = (.ok token, after)) (ht : token.lexeme ≠ .ending) :
    ∃ source, Source token.lexeme source := by
  simp only [next] at h
  split at h
  · cases h
    exact absurd rfl ht
  · rename_i c rest hc
    split at h
    · exact source_of_number (congrArg Prod.fst h)
    · rename_i hd
      split at h
      · rename_i hl
        cases h
        exact source_of_identifier hc hl
      · rename_i hl
        cases h
        exact ⟨_, .symbol (not_isBlank_of_skipBlanks hc) (by simpa using hd) (by simpa using hl)⟩

theorem source_of_mem_tokens (cursor : Cursor) :
    ∀ token ∈ cursor.tokens.1, ∃ source, Source token.lexeme source := by
  fun_induction tokens cursor with
  | case1 cursor e _ h =>
    intro token hm
    cases hm
  | case2 cursor token after h ht =>
    intro token hm
    cases hm
  | case3 cursor token after h ht _ later ih =>
    intro other hm
    rcases List.mem_cons.mp hm with rfl | hm
    · exact source_of_next h ht
    · exact ih other hm

end Cursor

def Spells (text : List Char) (lexemes : List Lexeme) (rest : List Char) : Prop :=
  ∀ cursor : Cursor, cursor.rest = text ++ rest → ∃ (read : List Token) (after : Cursor),
    after.rest = rest ∧ read.map Token.lexeme = lexemes ∧
      cursor.tokens = (read ++ after.tokens.1, after.tokens.2)

variable {text more source blanks rest : List Char} {lexeme : Lexeme} {lexemes later : List Lexeme}

theorem spells_source (h : Source lexeme source) (hrest : lexeme.Closes rest) :
    Spells source [lexeme] rest := by
  intro cursor hc
  exact ⟨[⟨lexeme, cursor.position⟩], cursor.past source rest, rfl, rfl,
    Cursor.tokens_source h hc hrest⟩

theorem spells_blanks (h : ∀ c ∈ blanks, isBlank c = true) : Spells blanks [] rest := by
  intro cursor hc
  exact ⟨[], cursor.past blanks rest, rfl, rfl, Cursor.tokens_blanks h hc⟩

theorem Spells.append (h : Spells text lexemes (more ++ rest)) (h' : Spells more later rest) :
    Spells (text ++ more) (lexemes ++ later) rest := by
  intro cursor hc
  obtain ⟨read, middle, hm, hl, ht⟩ := h cursor (by rw [hc, List.append_assoc])
  obtain ⟨read', after, ha, hl', ht'⟩ := h' middle hm
  refine ⟨read ++ read', after, ha, ?_, ?_⟩
  · rw [List.map_append, hl, hl']
  · rw [ht, ht', List.append_assoc]

theorem Spells.scan {s : String} (h : Spells s.toList lexemes []) :
    ∃ tokens, (Scan.ofText s).result = .ok tokens ∧ tokens.map Token.lexeme = lexemes := by
  obtain ⟨read, after, ha, hl, ht⟩ := h (Cursor.ofText s.toList) (by simp [Cursor.ofText])
  rw [Cursor.tokens_end ha, List.append_nil] at ht
  refine ⟨read, ?_, hl⟩
  simp only [Scan.ofText, Scan.result, ht]

end Calculator

import Calculator.Proofs.Lexing
import Mathlib.Data.List.TakeWhile
import Mathlib.Logic.Function.Iterate

/-!
Cutting a text into sources by the longest match: blanks, a source, blanks, a source, and so on, with
blanks at the end. A text can be cut in exactly one way, whatever the length of its numerals, and
`scan_of_longest_cut` says that the tokens of a text are those of its cut.
-/

namespace Calculator

inductive Spelt : Lexeme → List Char → Prop
  | number {ds : List Char} (nonempty : ds ≠ []) (digits : ∀ c ∈ ds, isDigit c = true) :
      Spelt (.number (Numeral.value ds)) ds
  | identifier {c : Char} {cs : List Char} (letter : isLetter c = true)
      (parts : ∀ d ∈ cs, isWordPart d = true) :
      Spelt (.identifier (String.ofList (c :: cs))) (c :: cs)
  | symbol {c : Char} (noBlank : isBlank c = false) (noDigit : isDigit c = false)
      (noLetter : isLetter c = false) : Spelt (.symbol (String.singleton c)) [c]

def Lexeme.oversized : Lexeme → List Char → Bool
  | .number _, source => Numeral.maxDigits < source.length
  | _, _ => false

structure Stretch where
  blanks : List Char
  source : List Char
  lexeme : Lexeme

def Stretch.oversized (s : Stretch) : Bool := s.lexeme.oversized s.source

inductive Cuts : List Char → List Stretch → List Char → Prop
  | tail {tail : List Char} (blank : ∀ c ∈ tail, isBlank c = true) : Cuts tail [] tail
  | stretch {s : Stretch} {rest tail : List Char} {later : List Stretch}
      (blank : ∀ c ∈ s.blanks, isBlank c = true) (spelt : Spelt s.lexeme s.source)
      (longest : s.lexeme.Closes rest) (next : Cuts rest later tail) :
      Cuts (s.blanks ++ (s.source ++ rest)) (s :: later) tail

def Cursor.tokensOver (cursor : Cursor) : List Stretch → List Token
  | [] => []
  | s :: later =>
    let first := Cursor.advance^[s.blanks.length] cursor
    ⟨s.lexeme, first.position⟩ :: (Cursor.advance^[s.source.length] first).tokensOver later

variable {lexeme : Lexeme} {text run source rest rest' tail tail' : List Char}
variable {stretches stretches' : List Stretch} {cursor : Cursor} {p : Char → Bool}

theorem takeWhile_run (hrun : ∀ c ∈ run, p c = true) (hrest : ∀ c ∈ rest.head?, p c = false) :
    (run ++ rest).takeWhile p = run := by
  have hs : (Cursor.ofText (run ++ rest)).span p = run := Cursor.span_eq rfl hrun hrest
  exact hs

theorem exists_run (p : Char → Bool) (text : List Char) : ∃ run rest, text = run ++ rest ∧
    (∀ c ∈ run, p c = true) ∧ ∀ c ∈ rest.head?, p c = false := by
  refine ⟨text.takeWhile p, text.dropWhile p, List.takeWhile_append_dropWhile.symm, ?_, ?_⟩
  · intro c hc
    exact List.all_eq_true.mp List.all_takeWhile c hc
  · intro c hc
    have hd := List.head?_dropWhile_not p text
    rw [Option.mem_def.mp hc] at hd
    exact hd

namespace Spelt

theorem source_of_fits (h : Spelt lexeme source) (hs : lexeme.oversized source = false) :
    Source lexeme source := by
  cases h with
  | number nonempty digits =>
    exact .number nonempty digits (Nat.le_of_not_lt (of_decide_eq_false hs))
  | identifier letter parts => exact .identifier letter parts
  | symbol noBlank noDigit noLetter => exact .symbol noBlank noDigit noLetter

theorem ne_ending (h : Spelt lexeme source) : lexeme ≠ .ending := by
  cases h <;> simp

theorem exists_cons (h : Spelt lexeme source) : ∃ c cs, source = c :: cs ∧ isBlank c = false := by
  cases h with
  | number nonempty digits =>
    obtain ⟨c, cs, rfl⟩ := List.exists_cons_of_ne_nil nonempty
    refine ⟨c, cs, rfl, ?_⟩
    rw [Bool.eq_false_iff]
    intro hb
    cases (digits c List.mem_cons_self).symm.trans (not_isDigit_of_isBlank hb)
  | @identifier c cs letter parts =>
    refine ⟨c, cs, rfl, ?_⟩
    rw [Bool.eq_false_iff]
    intro hb
    cases letter.symm.trans (not_isLetter_of_isBlank hb)
  | @symbol c noBlank => exact ⟨c, [], rfl, noBlank⟩

end Spelt

theorem exists_spelt {c : Char} (hb : isBlank c = false) (cs : List Char) :
    ∃ lexeme source rest, c :: cs = source ++ rest ∧ Spelt lexeme source ∧ lexeme.Closes rest := by
  by_cases hd : isDigit c = true
  · obtain ⟨run, rest, rfl, hrun, hrest⟩ := exists_run isDigit cs
    have hdigits : ∀ d ∈ c :: run, isDigit d = true := List.forall_mem_cons.mpr ⟨hd, hrun⟩
    exact ⟨_, c :: run, rest, rfl, .number (by simp) hdigits, hrest⟩
  · by_cases hl : isLetter c = true
    · obtain ⟨run, rest, rfl, hrun, hrest⟩ := exists_run isWordPart cs
      exact ⟨_, c :: run, rest, rfl, .identifier hl hrun, hrest⟩
    · exact ⟨_, [c], cs, rfl, .symbol hb (by simpa using hd) (by simpa using hl), trivial⟩

theorem exists_cuts (text : List Char) : ∃ stretches tail, Cuts text stretches tail := by
  induction hn : text.length using Nat.strongRecOn generalizing text with
  | _ n ih =>
  obtain ⟨blanks, rest, rfl, hblank, hrest⟩ := exists_run isBlank text
  cases rest with
  | nil =>
    rw [List.append_nil]
    exact ⟨[], blanks, .tail hblank⟩
  | cons c cs =>
    obtain ⟨lexeme, source, rest, he, hs, hcloses⟩ := exists_spelt (hrest c rfl) cs
    obtain ⟨d, ds, rfl, -⟩ := hs.exists_cons
    rw [he] at hn ⊢
    have hless : rest.length < n := by
      simp only [List.length_append, List.length_cons] at hn
      omega
    obtain ⟨later, tail, hlater⟩ := ih _ hless rest rfl
    have hcut := Cuts.stretch (s := ⟨blanks, d :: ds, lexeme⟩) hblank hs hcloses hlater
    exact ⟨_, tail, hcut⟩

section Unique

def lexemeOf : List Char → Lexeme
  | [] => .ending
  | c :: cs =>
    if isDigit c then .number (Numeral.value (c :: cs))
    else if isLetter c then .identifier (String.ofList (c :: cs))
    else .symbol (String.ofList (c :: cs))

def longestSource : List Char → List Char
  | [] => []
  | c :: cs =>
    if isDigit c then (c :: cs).takeWhile isDigit
    else if isLetter c then (c :: cs).takeWhile isWordPart
    else [c]

theorem Spelt.lexeme_eq (h : Spelt lexeme source) : lexeme = lexemeOf source := by
  cases h with
  | number nonempty digits =>
    obtain ⟨c, cs, rfl⟩ := List.exists_cons_of_ne_nil nonempty
    rw [lexemeOf, if_pos (digits c List.mem_cons_self)]
  | identifier letter parts => rw [lexemeOf, not_isDigit_of_isLetter letter, letter]; rfl
  | symbol noBlank noDigit noLetter => rw [lexemeOf, noDigit, noLetter]; rfl

theorem Spelt.source_eq (h : Spelt lexeme source) (hrest : lexeme.Closes rest) :
    source = longestSource (source ++ rest) := by
  cases h with
  | number nonempty digits =>
    obtain ⟨c, cs, rfl⟩ := List.exists_cons_of_ne_nil nonempty
    have hr : (c :: cs ++ rest).takeWhile isDigit = c :: cs := takeWhile_run digits hrest
    rw [List.cons_append, longestSource, if_pos (digits c List.mem_cons_self)]
    exact hr.symm
  | @identifier c cs letter parts =>
    have hword : ∀ d ∈ c :: cs, isWordPart d = true :=
      List.forall_mem_cons.mpr ⟨isWordPart_of_isLetter letter, parts⟩
    have hr : (c :: cs ++ rest).takeWhile isWordPart = c :: cs := takeWhile_run hword hrest
    rw [List.cons_append, longestSource, not_isDigit_of_isLetter letter, letter]
    exact hr.symm
  | symbol noBlank noDigit noLetter =>
    rw [List.cons_append, longestSource, noDigit, noLetter]
    rfl

variable {s s' : Stretch}

theorem takeWhile_stretch (hblank : ∀ c ∈ s.blanks, isBlank c = true)
    (hs : Spelt s.lexeme s.source) (rest : List Char) :
    (s.blanks ++ (s.source ++ rest)).takeWhile isBlank = s.blanks := by
  obtain ⟨c, cs, he, hc⟩ := hs.exists_cons
  refine takeWhile_run hblank ?_
  rw [he]
  simpa using hc

theorem stretch_not_blank (hs : Spelt s.lexeme s.source) (rest : List Char) :
    ¬ ∀ c ∈ s.blanks ++ (s.source ++ rest), isBlank c = true := by
  intro hall
  obtain ⟨c, cs, he, hc⟩ := hs.exists_cons
  cases (hall c (by simp [he])).symm.trans hc

theorem stretch_unique (hblank : ∀ c ∈ s.blanks, isBlank c = true)
    (hblank' : ∀ c ∈ s'.blanks, isBlank c = true) (hs : Spelt s.lexeme s.source)
    (hs' : Spelt s'.lexeme s'.source) (hcloses : s.lexeme.Closes rest)
    (hcloses' : s'.lexeme.Closes rest')
    (he : s.blanks ++ (s.source ++ rest) = s'.blanks ++ (s'.source ++ rest')) :
    s = s' ∧ rest = rest' := by
  have hblanks : s.blanks = s'.blanks := by
    rw [← takeWhile_stretch hblank hs rest, ← takeWhile_stretch hblank' hs' rest', he]
  rw [hblanks] at he
  have hbehind := List.append_cancel_left he
  have hsource : s.source = s'.source := by
    rw [hs.source_eq hcloses, hs'.source_eq hcloses', hbehind]
  have hlexeme : s.lexeme = s'.lexeme := by
    rw [hs.lexeme_eq, hs'.lexeme_eq, hsource]
  rw [hsource] at hbehind
  refine ⟨?_, List.append_cancel_left hbehind⟩
  cases s
  cases s'
  simp_all

-- The text of the second cut is a variable of its own, so that the cut can be taken apart.
theorem cuts_unique (h : Cuts text stretches tail) : ∀ {text' stretches' tail'},
    Cuts text' stretches' tail' → text = text' → stretches = stretches' ∧ tail = tail' := by
  induction h with
  | @tail tail hblank =>
    intro text' stretches' tail' h' he
    cases h' with
    | tail _ => exact ⟨rfl, he⟩
    | stretch _ hs =>
      rw [he] at hblank
      exact absurd hblank (stretch_not_blank hs _)
  | stretch hblank hs hcloses _ ih =>
    intro text' stretches' tail' h' he
    cases h' with
    | tail hblank' =>
      rw [← he] at hblank'
      exact absurd hblank' (stretch_not_blank hs _)
    | stretch hblank' hs' hcloses' hnext =>
      obtain ⟨rfl, hrest⟩ := stretch_unique hblank hblank' hs hs' hcloses hcloses' he
      obtain ⟨rfl, rfl⟩ := ih hnext hrest
      exact ⟨rfl, rfl⟩

end Unique

namespace Cursor

theorem advance_run (hc : cursor.rest = run ++ rest) :
    Cursor.advance^[run.length] cursor = cursor.past run rest := by
  induction run generalizing cursor with
  | nil =>
    rw [List.nil_append] at hc
    rw [past, ← hc]
    rfl
  | cons c run ih =>
    have ha : cursor.advance = cursor.past [c] (run ++ rest) := by
      rw [advance, hc]
      rfl
    rw [List.length_cons, Function.iterate_succ_apply, ha, ih rfl]
    simp only [past, List.length_cons, List.length_nil, Position.past_cons, Position.past_nil,
      Cursor.mk.injEq, true_and, and_true]
    omega

theorem tokens_tooLong {ds : List Char} (nonempty : ds ≠ []) (digits : ∀ c ∈ ds, isDigit c = true)
    (long : Numeral.maxDigits < ds.length) (hc : cursor.rest = ds ++ rest)
    (hrest : ∀ c ∈ rest.head?, isDigit c = false) :
    cursor.tokens = ([], some (.tooLong ds.length)) := by
  have hread : Numeral.read ds = .error (.tooLong ds.length) := by
    have hall : ds.all isDigit = true := List.all_eq_true.mpr digits
    simp [Numeral.read, nonempty, hall, long]
  obtain ⟨c, cs, rfl⟩ := List.exists_cons_of_ne_nil nonempty
  rw [tokens_eq, next_digit hc (digits c List.mem_cons_self), number, span_eq hc digits hrest, hread]
  rfl

theorem tokens_oversized (hs : Spelt lexeme source) (hsize : lexeme.oversized source = true)
    (hc : cursor.rest = source ++ rest) (hrest : lexeme.Closes rest) :
    cursor.tokens = ([], some (.tooLong source.length)) := by
  cases hs with
  | number nonempty digits =>
    exact tokens_tooLong nonempty digits (of_decide_eq_true hsize) hc hrest
  | identifier => cases hsize
  | symbol => cases hsize

theorem tokens_cuts (h : Cuts text stretches tail) : ∀ {cursor : Cursor}, cursor.rest = text →
    cursor.tokens = (cursor.tokensOver (stretches.takeWhile (!·.oversized)),
      (stretches.find? (·.oversized)).map fun s => .tooLong s.source.length) := by
  induction h with
  | @tail tail hblank =>
    intro cursor hc
    have hrest := hc.trans (List.append_nil _).symm
    rw [tokens_blanks hblank hrest, tokens_end rfl]
    rfl
  | @stretch s rest tail later hblank hs hcloses _ ih =>
    intro cursor hc
    rw [tokens_blanks hblank hc, List.takeWhile_cons, List.find?_cons]
    cases hsize : s.oversized with
    | true =>
      rw [tokens_oversized hs hsize rfl hcloses]
      rfl
    | false =>
      have hfirst : Cursor.advance^[s.blanks.length] cursor = cursor.past s.blanks _ :=
        advance_run hc
      have hbehind : Cursor.advance^[s.source.length] (cursor.past s.blanks (s.source ++ rest)) =
          _ := advance_run rfl
      rw [tokens_source (hs.source_of_fits hsize) rfl hcloses, ih rfl]
      simp only [Bool.not_false, if_true, tokensOver, hfirst, hbehind]

theorem map_lexeme_tokensOver (cursor : Cursor) (stretches : List Stretch) :
    (cursor.tokensOver stretches).map Token.lexeme = stretches.map Stretch.lexeme := by
  induction stretches generalizing cursor with
  | nil => rfl
  | cons s later ih => rw [tokensOver, List.map_cons, List.map_cons, ih]

end Cursor

theorem ending_not_mem (h : Cuts text stretches tail) :
    .ending ∉ stretches.map Stretch.lexeme := by
  induction h with
  | tail => exact List.not_mem_nil
  | stretch _ hs _ _ ih =>
    rw [List.map_cons, List.mem_cons, not_or]
    exact ⟨hs.ne_ending.symm, ih⟩

section Scan

variable {text : String} {s : Stretch}

theorem scan_cuts (h : Cuts text.toList stretches tail) : Scan.ofText text =
    ⟨(Cursor.ofText text.toList).tokensOver (stretches.takeWhile (!·.oversized)),
      (stretches.find? (·.oversized)).map fun s => .tooLong s.source.length⟩ := by
  have hr : (Cursor.ofText text.toList).rest = text.toList := rfl
  rw [Scan.ofText, Cursor.tokens_cuts h hr]

theorem result_of_fits (h : Cuts text.toList stretches tail)
    (hs : ∀ s ∈ stretches, s.oversized = false) :
    (Scan.ofText text).result = .ok ((Cursor.ofText text.toList).tokensOver stretches) := by
  have hf : stretches.find? (·.oversized) = none := by
    rw [List.find?_eq_none]
    intro s hm
    simp [hs s hm]
  have ht : stretches.takeWhile (!·.oversized) = stretches := by
    rw [List.takeWhile_eq_self_iff]
    intro s hm
    simp [hs s hm]
  rw [scan_cuts h, hf, ht]
  rfl

theorem result_of_oversized (h : Cuts text.toList stretches tail)
    (hs : stretches.find? (·.oversized) = some s) :
    (Scan.ofText text).result = .error (.tooLong s.source.length) := by
  rw [scan_cuts h, hs]
  rfl

theorem result_fails_iff (h : Cuts text.toList stretches tail) :
    (∃ error, (Scan.ofText text).result = .error error) ↔ ∃ s ∈ stretches, s.oversized = true := by
  cases hf : stretches.find? (·.oversized) with
  | none =>
    rw [List.find?_eq_none] at hf
    have hr := result_of_fits h fun s hm => by simpa using hf s hm
    constructor
    · rintro ⟨error, he⟩
      cases hr.symm.trans he
    · rintro ⟨s, hm, hs⟩
      exact absurd hs (hf s hm)
  | some s =>
    have hs : s.oversized = true := List.find?_some hf
    constructor
    · intro _
      exact ⟨s, List.mem_of_find?_eq_some hf, hs⟩
    · intro _
      exact ⟨_, result_of_oversized h hf⟩

theorem Lexeme.long_of_oversized (h : lexeme.oversized source = true) :
    Numeral.maxDigits < source.length := by
  cases lexeme with
  | number value => exact of_decide_eq_true h
  | identifier name => cases h
  | symbol text => cases h
  | ending => cases h

theorem tooLong_of_result {error : Numeral.Error} (h : (Scan.ofText text).result = .error error) :
    ∃ digits, Numeral.maxDigits < digits ∧ error = .tooLong digits := by
  obtain ⟨stretches, tail, hc⟩ := exists_cuts text.toList
  obtain ⟨s, hm, hs⟩ := (result_fails_iff hc).mp ⟨error, h⟩
  cases hf : stretches.find? (·.oversized) with
  | none => exact absurd hs (List.find?_eq_none.mp hf s hm)
  | some first =>
    have hfirst : first.oversized = true := List.find?_some hf
    cases (result_of_oversized hc hf).symm.trans h
    exact ⟨_, Lexeme.long_of_oversized hfirst, rfl⟩

theorem scan_of_longest_cut (text : String) :
    ∃ stretches tail,
      (∀ stretches' tail', Cuts text.toList stretches' tail' ↔
        stretches' = stretches ∧ tail' = tail) ∧
      (∀ tokens, (Scan.ofText text).result = .ok tokens ↔
        (¬ ∃ s ∈ stretches, s.oversized = true) ∧
          tokens = (Cursor.ofText text.toList).tokensOver stretches) ∧
      ((∃ error, (Scan.ofText text).result = .error error) ↔
        ∃ s ∈ stretches, s.oversized = true) ∧
      .ending ∉ ((Cursor.ofText text.toList).tokensOver stretches).map Token.lexeme := by
  obtain ⟨stretches, tail, h⟩ := exists_cuts text.toList
  refine ⟨stretches, tail, ?_, ?_, result_fails_iff h, ?_⟩
  · intro stretches' tail'
    constructor
    · intro h'
      exact cuts_unique h' h rfl
    · rintro ⟨rfl, rfl⟩
      exact h
  · intro tokens
    constructor
    · intro hr
      have hfits : ¬ ∃ s ∈ stretches, s.oversized = true := by
        intro hs
        obtain ⟨error, he⟩ := (result_fails_iff h).mpr hs
        cases hr.symm.trans he
      refine ⟨hfits, ?_⟩
      have hr' := result_of_fits h (by simpa using hfits)
      exact Except.ok.inj (hr.symm.trans hr')
    · rintro ⟨hfits, rfl⟩
      exact result_of_fits h (by simpa using hfits)
  · rw [Cursor.map_lexeme_tokensOver]
    exact ending_not_mem h

end Scan

end Calculator

import Calculator.Proofs.Columns

/-!
Two texts with a blank between them. Every source ends at a blank, so what stands behind it is read as
if it stood alone. Only the places differ: the first line of the second text goes on where the first
text and the blank have led, and its later lines are counted on.
-/

namespace Calculator

def Position.carried (origin p : Position) : Position :=
  ⟨origin.line + (p.line - 1), if p.line = 1 then origin.column + p.column else p.column⟩

def Token.carried (origin : Position) (token : Token) : Token :=
  ⟨token.lexeme, origin.carried token.position⟩

def Cursor.carried (before cursor : Cursor) : Cursor :=
  ⟨cursor.rest, before.offset + cursor.offset, before.position.carried cursor.position⟩

def Cursor.scan (cursor : Cursor) : Scan := ⟨cursor.tokens.1, cursor.tokens.2⟩

namespace Scan

def carried (origin : Position) (scan : Scan) : Scan :=
  ⟨scan.tokens.map (.carried origin), scan.failure⟩

def followedBy (scan later : Scan) : Scan :=
  match scan.failure with
  | none => ⟨scan.tokens ++ later.tokens, later.failure⟩
  | some _ => scan

end Scan

variable {cursor before : Cursor} {origin : Position} {stretches : List Stretch} {w : Char}
variable {text more rest tail : List Char} {lexeme : Lexeme}

section Blank

theorem Lexeme.Closes.append_blank (h : lexeme.Closes rest) (hw : isBlank w = true) :
    lexeme.Closes (rest ++ w :: more) := by
  cases rest with
  | nil =>
    refine lexeme.closes_of_head fun c hc => ?_
    cases hc
    exact not_isWordPart_of_isBlank hw
  | cons c rest => cases lexeme <;> exact h

theorem Scan.followedBy_assoc (first second third : Scan) :
    (first.followedBy second).followedBy third = first.followedBy (second.followedBy third) := by
  obtain ⟨tokens, failure⟩ := first
  obtain ⟨tokens', failure'⟩ := second
  cases failure <;> cases failure' <;> simp [followedBy]

namespace Cursor

theorem past_past (cursor : Cursor) (run middle run' rest : List Char) :
    (cursor.past run middle).past run' rest = cursor.past (run ++ run') rest := by
  simp only [past, List.length_append, Position.past_append, Nat.add_assoc]

theorem scan_blanks {blanks : List Char} (hblanks : ∀ c ∈ blanks, isBlank c = true)
    (hc : cursor.rest = blanks ++ rest) : cursor.scan = (cursor.past blanks rest).scan := by
  rw [scan, tokens_blanks hblanks hc, scan]

theorem scan_source {source : List Char} (hs : Source lexeme source)
    (hc : cursor.rest = source ++ rest) (hrest : lexeme.Closes rest) : cursor.scan =
      Scan.followedBy ⟨[⟨lexeme, cursor.position⟩], none⟩ (cursor.past source rest).scan := by
  rw [scan, tokens_source hs hc hrest]
  rfl

-- The induction is on the cut of the first text; its last blanks and `w` are skipped together.
theorem scan_blank (h : Cuts text stretches tail) (hw : isBlank w = true) :
    ∀ {cursor : Cursor}, cursor.rest = text ++ w :: more → cursor.scan =
      Scan.followedBy (cursor.past [] text).scan (cursor.past (text ++ [w]) more).scan := by
  induction h with
  | @tail tail hblank =>
    intro cursor hc
    have hrest : cursor.rest = (tail ++ [w]) ++ more := by simp [hc]
    have hblanks : ∀ c ∈ tail ++ [w], isBlank c = true :=
      List.forall_mem_append.mpr ⟨hblank, List.forall_mem_singleton.mpr hw⟩
    have halone : (cursor.past [] tail).scan = ⟨[], none⟩ := by
      rw [scan_blanks hblank (List.append_nil _).symm, scan, tokens_end rfl]
    rw [scan_blanks hblanks hrest, halone]
    rfl
  | @stretch s rest tail later hblank hs hcloses _ ih =>
    intro cursor hc
    have hrest : cursor.rest = s.blanks ++ (s.source ++ (rest ++ w :: more)) := by simp [hc]
    have halone : (cursor.past [] (s.blanks ++ (s.source ++ rest))).rest =
      s.blanks ++ (s.source ++ rest) := rfl
    have hcloses' : s.lexeme.Closes (rest ++ w :: more) := hcloses.append_blank hw
    rw [scan_blanks hblank hrest, scan_blanks hblank halone]
    cases hsize : s.oversized with
    | true =>
      rw [scan, tokens_oversized hs hsize rfl hcloses', scan, tokens_oversized hs hsize rfl hcloses]
      rfl
    | false =>
      have hsource := hs.source_of_fits hsize
      have hwhole : (cursor.past s.blanks (s.source ++ (rest ++ w :: more))).scan = _ :=
        scan_source hsource rfl hcloses'
      have hfirst : ((cursor.past [] (s.blanks ++ (s.source ++ rest))).past s.blanks
          (s.source ++ rest)).scan = _ := scan_source hsource rfl hcloses
      rw [hwhole, hfirst, Scan.followedBy_assoc, ih rfl]
      simp only [past_past, List.nil_append, List.append_nil, List.append_assoc]
      rfl

end Cursor

end Blank

section Places

theorem Position.carried_start (origin : Position) : origin.carried .start = origin := by
  simp [carried, start]

theorem Position.carried_after {p : Position} (h : 1 ≤ p.line) (origin : Position) (c : Char) :
    origin.carried (p.after c) = (origin.carried p).after c := by
  by_cases hc : c = '\n'
  · subst hc
    have hnext : p.line + 1 ≠ 1 := by omega
    simp only [carried, after_newline, hnext, if_false, mk.injEq, and_true]
    omega
  · simp only [carried, after_of_ne hc, right, mk.injEq, true_and]
    split <;> omega

theorem Position.line_after (p : Position) (c : Char) : p.line ≤ (p.after c).line := by
  by_cases hc : c = '\n'
  · subst hc
    rw [after_newline]
    simp only
    omega
  · rw [after_of_ne hc]
    exact Int.le_refl _

namespace Cursor

theorem carried_ofText (before : Cursor) (text : List Char) :
    before.carried (ofText text) = ⟨text, before.offset, before.position⟩ := by
  rw [carried, ofText, Position.carried_start]
  rfl

theorem advance_carried (h : 1 ≤ cursor.position.line) (before : Cursor) :
    (before.carried cursor).advance = before.carried cursor.advance := by
  cases hc : cursor.rest with
  | nil =>
    have hright : (before.position.carried cursor.position).right 1 =
        before.position.carried (cursor.position.right 1) := by
      simp only [Position.carried, Position.right, Position.mk.injEq, true_and]
      split <;> omega
    simp only [advance, carried, hc, hright, Nat.add_assoc]
  | cons c rest => simp only [advance, carried, hc, Position.carried_after h, Nat.add_assoc]

theorem line_advance (cursor : Cursor) : cursor.position.line ≤ cursor.advance.position.line := by
  rw [advance]
  cases cursor.rest with
  | nil => exact Int.le_refl _
  | cons c rest => exact Position.line_after _ c

theorem iterate_advance_carried (h : 1 ≤ cursor.position.line) (before : Cursor) (n : Nat) :
    Cursor.advance^[n] (before.carried cursor) = before.carried (Cursor.advance^[n] cursor) ∧
      1 ≤ (Cursor.advance^[n] cursor).position.line := by
  induction n with
  | zero => exact ⟨rfl, h⟩
  | succ n ih =>
    obtain ⟨hc, hline⟩ := ih
    rw [Function.iterate_succ_apply', Function.iterate_succ_apply', hc, advance_carried hline]
    exact ⟨rfl, Int.le_trans hline (line_advance _)⟩

theorem tokensOver_carried (h : 1 ≤ cursor.position.line) (before : Cursor)
    (stretches : List Stretch) : (before.carried cursor).tokensOver stretches =
      (cursor.tokensOver stretches).map (.carried before.position) := by
  induction stretches generalizing cursor with
  | nil => rfl
  | cons s later ih =>
    obtain ⟨hblanks, hfirst⟩ := iterate_advance_carried h before s.blanks.length
    obtain ⟨hsource, hnext⟩ := iterate_advance_carried hfirst before s.source.length
    simp only [tokensOver, hblanks, hsource, ih hnext, List.map_cons]
    rfl

theorem scan_carried (cursor : Cursor) (h : 1 ≤ cursor.position.line) (before : Cursor) :
    (before.carried cursor).scan = cursor.scan.carried before.position := by
  obtain ⟨stretches, tail, hc⟩ := exists_cuts cursor.rest
  have hcarried : (before.carried cursor).rest = cursor.rest := rfl
  simp only [scan, tokens_cuts hc hcarried, tokens_cuts hc rfl, tokensOver_carried h, Scan.carried]

end Cursor

end Places

section Texts

variable {a b : String} {before : List Char} {token : Token}

theorem Scan.result_followedBy (scan later : Scan) : (scan.followedBy later).result =
    scan.result >>= fun tokens => later.result.map (tokens ++ ·) := by
  obtain ⟨tokens, failure⟩ := scan
  obtain ⟨tokens', failure'⟩ := later
  cases failure <;> cases failure' <;> rfl

theorem Scan.result_carried (origin : Position) (scan : Scan) :
    (scan.carried origin).result = scan.result.map (List.map (.carried origin)) := by
  obtain ⟨tokens, failure⟩ := scan
  cases failure <;> rfl

theorem line_eq_one_iff (h : Behind a before token) :
    token.position.line = 1 ↔ '\n' ∉ before := by
  rw [position_of_behind h, start_past, ← List.count_eq_zero]
  simp only
  omega

theorem scan_joined (a b : String) (hw : isBlank w = true) :
    Scan.ofText (a ++ String.singleton w ++ b) = (Scan.ofText a).followedBy
      ((Scan.ofText b).carried (Position.start.past (a.toList ++ [w]))) := by
  obtain ⟨stretches, tail, hc⟩ := exists_cuts a.toList
  have hrest : (Cursor.ofText (a ++ String.singleton w ++ b).toList).rest =
      a.toList ++ w :: b.toList := by simp [Cursor.ofText]
  have hbehind := (Cursor.ofText b.toList).scan_carried (Int.le_refl 1)
    ((Cursor.ofText (a ++ String.singleton w ++ b).toList).past (a.toList ++ [w]) b.toList)
  rw [Cursor.carried_ofText] at hbehind
  exact (Cursor.scan_blank hc hw hrest).trans (congrArg (Scan.followedBy _) hbehind)

theorem reached_joined (a b : String) (w : Char) :
    Cursor.advance^[a.toList.length + 1] (Cursor.ofText (a ++ String.singleton w ++ b).toList) =
      ⟨b.toList, a.toList.length + 1, Position.start.past (a.toList ++ [w])⟩ := by
  have hrest : (Cursor.ofText (a ++ String.singleton w ++ b).toList).rest =
      (a.toList ++ [w]) ++ b.toList := by simp [Cursor.ofText]
  have hreached := Cursor.advance_run hrest
  simpa [Cursor.past, Cursor.ofText] using hreached

theorem tokens_joined_at_blank (a b : String) (hw : isBlank w = true) :
    let joined := a ++ String.singleton w ++ b
    let reached := Cursor.advance^[a.toList.length + 1] (Cursor.ofText joined.toList)
    ((∃ tokens, (Scan.ofText joined).result = .ok tokens) ↔
      (∃ first, (Scan.ofText a).result = .ok first) ∧
        ∃ second, (Scan.ofText b).result = .ok second) ∧
    (∀ first second, (Scan.ofText a).result = .ok first → (Scan.ofText b).result = .ok second →
      (Scan.ofText joined).result = .ok (first ++ second.map fun token =>
        ⟨token.lexeme, token.position.line + (a.toList ++ [w]).count '\n',
          if token.position.line = 1 then token.position.column + reached.position.column
          else token.position.column⟩)) ∧
    (∀ before token, Behind b before token → (token.position.line = 1 ↔ '\n' ∉ before)) ∧
    reached.rest = b.toList ∧
    Scan.ofText joined = (Scan.ofText a).followedBy ((Scan.ofText b).carried reached.position) := by
  intro joined reached
  have hreached : reached = ⟨b.toList, _, Position.start.past (a.toList ++ [w])⟩ :=
    reached_joined a b w
  have hscan : Scan.ofText joined = _ := scan_joined a b hw
  have hresult : (Scan.ofText joined).result = (Scan.ofText a).result >>= fun first =>
      (Scan.ofText b).result.map fun second => first ++ second.map (.carried reached.position) := by
    rw [hscan, Scan.result_followedBy, Scan.result_carried, hreached]
    cases (Scan.ofText b).result <;> rfl
  refine ⟨?_, ?_, fun before token => line_eq_one_iff, by rw [hreached], by rw [hscan, hreached]⟩
  · rw [hresult]
    cases (Scan.ofText a).result <;> cases (Scan.ofText b).result <;>
      simp [bind, Except.bind, Except.map]
  · intro first second ha hb
    rw [hresult, ha, hb]
    refine congrArg (fun later => Except.ok (first ++ later)) (List.map_congr_left fun token _ => ?_)
    have hline : reached.position.line = 1 + (a.toList ++ [w]).count '\n' := by
      rw [hreached]
      exact Position.past_line _ _
    simp only [Token.carried, Position.carried, hline, Token.mk.injEq, Position.mk.injEq, true_and]
    constructor
    · omega
    · rw [Int.add_comm]

theorem product_joined_to_sum : isBlank ' ' = true ∧
    ∃ first second tokens, (Scan.ofText "1 +\n2").result = .ok first ∧
      (Scan.ofText "* y\n- 3").result = .ok second ∧
      (Scan.ofText ("1 +\n2" ++ String.singleton ' ' ++ "* y\n- 3")).result =
        .ok (first ++ tokens) ∧
      second.map Token.position = [⟨1, 0⟩, ⟨1, 2⟩, ⟨2, 1⟩, ⟨2, 3⟩] ∧
      tokens.map Token.position = [⟨2, 3⟩, ⟨2, 5⟩, ⟨3, 1⟩, ⟨3, 3⟩] := by
  have hw : isBlank ' ' = true := by decide +kernel
  have hfirst : (Scan.ofText "1 +\n2").result =
      .ok [⟨.number 1, ⟨1, 0⟩⟩, ⟨.symbol "+", ⟨1, 2⟩⟩, ⟨.number 2, ⟨2, 1⟩⟩] := by
    decide +kernel
  have hsecond : (Scan.ofText "* y\n- 3").result = .ok [⟨.symbol "*", ⟨1, 0⟩⟩,
      ⟨.identifier "y", ⟨1, 2⟩⟩, ⟨.symbol "-", ⟨2, 1⟩⟩, ⟨.number 3, ⟨2, 3⟩⟩] := by
    decide +kernel
  have hjoined := (tokens_joined_at_blank "1 +\n2" "* y\n- 3" hw).2.1 _ _ hfirst hsecond
  exact ⟨hw, _, _, _, hfirst, hsecond, hjoined, by decide +kernel, by decide +kernel⟩

end Texts

end Calculator

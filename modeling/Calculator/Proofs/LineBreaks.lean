import Calculator.Text.Line

namespace Calculator.Line

inductive Break : List Char → List Char → Prop
  | feed (rest : List Char) : Break ['\n'] rest
  | pair (rest : List Char) : Break ['\r', '\n'] rest
  | alone {rest : List Char} (noFeed : rest.head? ≠ some '\n') : Break ['\r'] rest

def Plain (line : List Char) : Prop := ∀ c ∈ line, c ≠ '\n' ∧ c ≠ '\r'

inductive Broken : List Char → List (List Char) → Prop
  | nil : Broken [] []
  | last {line : List Char} (nonempty : line ≠ []) (plain : Plain line) : Broken line [line]
  | line {line ending rest : List Char} {later : List (List Char)} (plain : Plain line)
      (ends : Break ending rest) (next : Broken rest later) :
      Broken (line ++ (ending ++ rest)) (line :: later)

variable {c : Char} {text rest line ending : List Char} {lines lines' : List (List Char)}

theorem plain_cons_iff : Plain (c :: line) ↔ (c ≠ '\n' ∧ c ≠ '\r') ∧ Plain line :=
  List.forall_mem_cons

theorem plain_nil : Plain [] := fun _ hc => by cases hc

section Split

theorem split_break (h : Break ending rest) : split (ending ++ rest) = [] :: split rest := by
  cases h with
  | feed => simp [split]
  | pair => simp [split]
  | alone noFeed =>
    cases rest with
    | nil => simp [split]
    | cons c rest =>
      have hc : c ≠ '\n' := by simpa using noFeed
      rw [List.cons_append, split.eq_def]
      simp [hc]

theorem split_plain_nil (hc : c ≠ '\n' ∧ c ≠ '\r') : split [c] = [[c]] := by
  rw [split.eq_def]
  simp [hc, split]

theorem split_plain_cons (hc : c ≠ '\n' ∧ c ≠ '\r') (h : split rest = line :: lines) :
    split (c :: rest) = (c :: line) :: lines := by
  rw [split.eq_def]
  simp [hc, h]

theorem split_last (hne : line ≠ []) (hp : Plain line) : split line = [line] := by
  induction line with
  | nil => exact absurd rfl hne
  | cons c line ih =>
    obtain ⟨hc, hp⟩ := plain_cons_iff.mp hp
    cases line with
    | nil => exact split_plain_nil hc
    | cons d line => exact split_plain_cons hc (ih (by simp) hp)

theorem split_line (hp : Plain line) (he : Break ending rest) :
    split (line ++ (ending ++ rest)) = line :: split rest := by
  induction line with
  | nil => exact split_break he
  | cons c line ih =>
    obtain ⟨hc, hp⟩ := plain_cons_iff.mp hp
    exact split_plain_cons hc (ih hp)

theorem Broken.cons (hc : c ≠ '\n' ∧ c ≠ '\r') (h : Broken text (line :: lines)) :
    Broken (c :: text) ((c :: line) :: lines) := by
  cases h with
  | last _ hp => exact .last (by simp) (plain_cons_iff.mpr ⟨hc, hp⟩)
  | line hp he hnext => exact .line (plain_cons_iff.mpr ⟨hc, hp⟩) he hnext

theorem Broken.eq_split (h : Broken text lines) : lines = split text := by
  induction h with
  | nil => rfl
  | last hne hp => exact (split_last hne hp).symm
  | line hp he _ ih => rw [split_line hp he, ← ih]

theorem broken_split (text : List Char) : Broken text (split text) := by
  fun_induction split text with
  | case1 => exact .nil
  | case2 rest ih => exact .line plain_nil (.pair rest) ih
  | case3 c rest hpair hc ih =>
    rcases hc with rfl | rfl
    · exact .line plain_nil (.feed rest) ih
    · refine .line plain_nil (.alone fun hfeed => ?_) ih
      obtain ⟨rest', rfl⟩ := List.head?_eq_some_iff.mp hfeed
      exact hpair rest' rfl rfl
  | case4 c rest _ hc hs ih =>
    rw [hs] at ih
    cases ih
    exact .last (by simp) (plain_cons_iff.mpr ⟨not_or.mp hc, plain_nil⟩)
  | case5 c rest _ hc line lines hs ih =>
    rw [hs] at ih
    exact ih.cons (not_or.mp hc)

theorem broken_iff : Broken text lines ↔ lines = split text :=
  ⟨Broken.eq_split, fun h => h ▸ broken_split text⟩

theorem split_plain (hc : c ≠ '\n' ∧ c ≠ '\r') (rest : List Char) :
    ∃ line lines, split (c :: rest) = (c :: line) :: lines := by
  cases hs : split rest with
  | nil =>
    have hb := broken_split rest
    rw [hs] at hb
    cases hb
    exact ⟨[], [], split_plain_nil hc⟩
  | cons line lines => exact ⟨line, lines, split_plain_cons hc hs⟩

end Split

section Append

def Parted (text rest : List Char) : Prop :=
  text = [] ∨ text.getLast? = some '\n' ∨ text.getLast? = some '\r' ∧ rest.head? ≠ some '\n'

theorem Parted.of_append {before : List Char} (h : Parted (before ++ text) rest) :
    Parted text rest := by
  cases text with
  | nil => exact .inl rfl
  | cons c text =>
    have hl : (before ++ c :: text).getLast? = (c :: text).getLast? := by
      rw [List.getLast?_append, List.getLast?_cons]
      rfl
    rw [Parted, hl] at h
    exact .inr (h.resolve_left (by simp))

theorem Parted.not_plain (h : Parted line rest) (hne : line ≠ []) : ¬ Plain line := by
  intro hp
  rcases h with h | h | ⟨h, -⟩
  · exact hne h
  · exact (hp _ (List.mem_of_getLast? h)).1 rfl
  · exact (hp _ (List.mem_of_getLast? h)).2 rfl

theorem Break.append (he : Break ending text) (h : Parted (ending ++ text) rest) :
    Break ending (text ++ rest) := by
  cases he with
  | feed => exact .feed _
  | pair => exact .pair _
  | alone noFeed =>
    cases text with
    | nil => exact .alone (by simpa [Parted] using h)
    | cons c text => exact .alone (by simpa using noFeed)

theorem Broken.append (h : Broken text lines) (h' : Broken rest lines') (hp : Parted text rest) :
    Broken (text ++ rest) (lines ++ lines') := by
  induction h with
  | nil => exact h'
  | last hne hplain => exact absurd hplain (hp.not_plain hne)
  | line hplain he _ ih =>
    rw [List.append_assoc, List.append_assoc]
    exact .line hplain (he.append hp.of_append) (ih hp.of_append.of_append)

theorem split_append (h : Parted text rest) : split (text ++ rest) = split text ++ split rest :=
  ((broken_split text).append (broken_split rest) h).eq_split.symm

end Append

end Calculator.Line

/-!
Sets of characters, given by their ranges of code points. `contains` stops at the first range that
lies above the code point; on ranges in order it is membership in one of them. Two sets whose ranges
come apart when they are gone through side by side have no code point in common.
-/

namespace Calculator

abbrev Ranges := List (Nat × Nat)

namespace Ranges

def find? : Ranges → Nat → Option (Nat × Nat)
  | [], _ => none
  | (a, b) :: rest, n => if n < a then none else if n ≤ b then some (a, b) else find? rest n

def contains (rs : Ranges) (n : Nat) : Bool := (rs.find? n).isSome

def ordered : Ranges → Bool
  | [] => true
  | r :: rest => Nat.ble r.1 r.2 && rest.head?.all (Nat.blt r.2 ·.1) && ordered rest

def apart : Ranges → Ranges → Bool
  | [], _ => true
  | r :: rs, ss =>
    match ss.dropWhile (Nat.blt ·.2 r.1) with
    | [] => true
    | s :: later => Nat.blt r.2 s.1 && apart rs (s :: later)

theorem ordered_cons {r : Nat × Nat} {rest : Ranges} (h : ordered (r :: rest) = true) :
    ordered rest = true ∧ r.1 ≤ r.2 ∧ ∀ s ∈ rest, r.2 < s.1 := by
  induction rest generalizing r with
  | nil => simpa [ordered] using h
  | cons q rest ih =>
    simp only [ordered, List.head?_cons, Option.all_some, Bool.and_eq_true, Nat.ble_eq,
      Nat.blt_eq] at h ih ⊢
    obtain ⟨⟨hr, hq⟩, hrest⟩ := h
    obtain ⟨-, hle, hlater⟩ := ih hrest
    refine ⟨hrest, hr, fun s hs => ?_⟩
    rcases List.mem_cons.mp hs with rfl | hs
    · exact hq
    · have := hlater s hs
      omega

theorem ordered_dropWhile {rs : Ranges} (h : ordered rs = true) (p : Nat × Nat → Bool) :
    ordered (rs.dropWhile p) = true := by
  induction rs with
  | nil => exact h
  | cons r rest ih =>
    rw [List.dropWhile_cons]
    split
    · exact ih (ordered_cons h).1
    · exact h

theorem contains_iff {rs : Ranges} (h : ordered rs = true) (n : Nat) :
    rs.contains n = true ↔ ∃ r ∈ rs, r.1 ≤ n ∧ n ≤ r.2 := by
  induction rs with
  | nil => simp [contains, find?]
  | cons r rest ih =>
    obtain ⟨hrest, hle, hlater⟩ := ordered_cons h
    obtain ⟨a, b⟩ := r
    simp only [contains, find?] at ih ⊢
    simp only [List.mem_cons, exists_eq_or_imp]
    split
    · simp only [Option.isSome_none, Bool.false_eq_true, false_iff, not_or, not_exists]
      refine ⟨by omega, fun s hs => ?_⟩
      have := hlater s hs.1
      simp only at this hle
      omega
    · split
      · simp only [Option.isSome_some, true_iff]
        exact .inl ⟨by omega, by omega⟩
      · rw [ih hrest]
        exact ⟨.inr, fun h => h.resolve_left (by omega)⟩

theorem not_contains_of_apart {rs ss : Ranges} (hr : ordered rs = true) (hs : ordered ss = true)
    (h : apart rs ss = true) {n : Nat} (hn : rs.contains n = true) : ss.contains n = false := by
  rw [Bool.eq_false_iff]
  intro hm
  obtain ⟨x, hx, hx1, hx2⟩ := (contains_iff hr n).mp hn
  obtain ⟨y, hy, hy1, hy2⟩ := (contains_iff hs n).mp hm
  clear hn hm
  induction rs generalizing ss with
  | nil => simp at hx
  | cons r rest ih =>
    obtain ⟨hrest, hle, hlater⟩ := ordered_cons hr
    have hrx : r.1 ≤ x.1 := by
      rcases List.mem_cons.mp hx with rfl | hx
      · exact Nat.le_refl _
      · have := hlater x hx
        omega
    rw [← List.takeWhile_append_dropWhile (p := (Nat.blt ·.2 r.1)) (l := ss)] at hy
    rcases List.mem_append.mp hy with hy | hy
    · have := List.all_eq_true.mp List.all_takeWhile y hy
      simp only [Nat.blt_eq] at this
      omega
    · have hd := ordered_dropWhile hs (Nat.blt ·.2 r.1)
      unfold apart at h
      split at h
      · rename_i he
        simp [he] at hy
      · rename_i s later he
        rw [he] at hy hd
        simp only [Bool.and_eq_true, Nat.blt_eq] at h
        have hsy : s.1 ≤ y.1 := by
          rcases List.mem_cons.mp hy with rfl | hy
          · exact Nat.le_refl _
          · have := ordered_cons hd
            have := this.2.2 y hy
            omega
        rcases List.mem_cons.mp hx with rfl | hx
        · omega
        · exact ih hrest hd h.2 hx hy

end Ranges

end Calculator

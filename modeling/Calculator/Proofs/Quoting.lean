import Calculator.Text.Quoted
import Mathlib.Algebra.Group.Nat.Defs
import Mathlib.Tactic.SplitIfs

/-!
Reading quoted text back. The first escape of an escaped text tells its character, and only the mark
itself stands for the end; so a quoted text tells what it quotes and where it ends, whatever stands
behind it, and which characters are printable need not be known.
-/

namespace Calculator

def isPlain (c : Char) : Bool := 0x20 ≤ c.toNat && c.toNat < 0x7f

def Shows (printable : Char → Bool) (cs : List Char) : Prop :=
  ∀ c ∈ cs, printable c = true ∨ isPlain c = true

theorem Shows.append {printable : Char → Bool} {cs ds : List Char} (h : Shows printable cs)
    (h' : Shows printable ds) : Shows printable (cs ++ ds) := List.forall_mem_append.mpr ⟨h, h'⟩

theorem shows_plain (printable : Char → Bool) {cs : List Char} (h : cs.all isPlain = true) :
    Shows printable cs := fun c hc => .inr (List.all_eq_true.mp h c hc)

namespace Quoted

def hexDigit (c : Char) : Nat := if c.isDigit then c.toNat - 48 else c.toNat - 87

def hexValue (ds : List Char) : Nat := ds.foldl (fun n c => 16 * n + hexDigit c) 0

def hexWidth? (tag : Char) : Option Nat :=
  if tag = 'x' then some 2 else if tag = 'u' then some 4 else if tag = 'U' then some 8 else none

def control? (tag : Char) : Option Char :=
  if tag = 'n' then some '\n' else if tag = 'r' then some '\r' else if tag = 't' then some '\t'
  else none

def unescape : List Char → Option (Char × List Char)
  | [] => none
  | '\\' :: tag :: rest =>
    match control? tag, hexWidth? tag with
    | some c, _ => some (c, rest)
    | none, some width => some (Char.ofNat (hexValue (rest.take width)), rest.drop width)
    | none, none => some (tag, rest)
  | c :: rest => some (c, rest)

variable {printable printable' : Char → Bool} {m c : Char} {cs ds rest rest' : List Char}

section Hex

theorem hexDigit_digitChar : ∀ d < 16, hexDigit (Nat.digitChar d) = d := by decide

theorem isPlain_digitChar : ∀ d < 16, isPlain (Nat.digitChar d) = true := by decide

theorem hexValue_hex (width n : Nat) : hexValue (hex width n) = n % 16 ^ width := by
  induction width generalizing n with
  | zero => simp [hex, hexValue, Nat.mod_one]
  | succ width ih =>
    have hdigit : hexDigit (Nat.digitChar (n % 16)) = n % 16 :=
      hexDigit_digitChar _ (Nat.mod_lt _ (by decide))
    have hstep : hexValue (hex width (n / 16) ++ [Nat.digitChar (n % 16)]) =
        16 * hexValue (hex width (n / 16)) + hexDigit (Nat.digitChar (n % 16)) := by
      simp [hexValue]
    rw [hex, hstep, ih, hdigit, Nat.pow_succ', Nat.mod_mul, Nat.add_comm]

theorem all_isPlain_hex (width n : Nat) : (hex width n).all isPlain = true := by
  induction width generalizing n with
  | zero => rfl
  | succ width ih =>
    have hdigit := isPlain_digitChar _ (Nat.mod_lt n (by decide))
    simp only [hex, List.all_append, List.all_cons, List.all_nil, ih, hdigit, Bool.and_self]

theorem unescape_hex {tag : Char} {width : Nat} (htag : control? tag = none)
    (hwidth : hexWidth? tag = some width) (h : c.toNat < 16 ^ width) (rest : List Char) :
    unescape ('\\' :: tag :: (hex width c.toNat ++ rest)) = some (c, rest) := by
  have hlength := hex_length width c.toNat
  simp only [unescape, htag, hwidth, List.take_left' hlength, List.drop_left' hlength,
    hexValue_hex, Nat.mod_eq_of_lt h, Char.ofNat_toNat]

end Hex

section Escape

def IsMark (m : Char) : Prop := m = '\'' ∨ m = '"'

theorem isMark_mark (cs : List Char) : IsMark (mark cs) := by
  rw [mark]
  split
  · exact .inr rfl
  · exact .inl rfl

theorem IsMark.ne_backslash (h : IsMark m) : m ≠ '\\' := by
  rcases h with rfl | rfl <;> decide

theorem unescape_plain (h : c ≠ '\\') (rest : List Char) : unescape (c :: rest) = some (c, rest) := by
  rw [unescape.eq_def]
  simp [h]

theorem unescape_slashed (h : IsMark c ∨ c = '\\') (rest : List Char) :
    unescape ('\\' :: c :: rest) = some (c, rest) := by
  rcases h with (rfl | rfl) | rfl <;> rfl

theorem unescape_escape (hm : IsMark m) (printable : Char → Bool) (c : Char) (rest : List Char) :
    unescape (escape printable m c ++ rest) = some (c, rest) := by
  have hbound : c.toNat < 16 ^ 8 := c.val.toNat_lt
  unfold escape
  split_ifs with hslash hn hr ht hp hx hu
  · exact unescape_slashed (hslash.imp_left fun h => h ▸ hm) rest
  · rw [hn]
    rfl
  · rw [hr]
    rfl
  · rw [ht]
    rfl
  · exact unescape_plain (fun h => hslash (.inr h)) rest
  · exact unescape_hex rfl rfl hx rest
  · exact unescape_hex rfl rfl hu rest
  · exact unescape_hex rfl rfl hbound rest

theorem escape_append_ne_mark (hm : IsMark m) (printable : Char → Bool) (c : Char)
    (rest rest' : List Char) : escape printable m c ++ rest ≠ m :: rest' := by
  have hslash : '\\' ≠ m := hm.ne_backslash.symm
  unfold escape
  split_ifs with hc
  all_goals simp only [List.cons_append, List.nil_append, ne_eq, List.cons.injEq, not_and]
  all_goals intro h
  all_goals first | exact absurd h hslash | exact absurd (.inl h) hc

theorem isPlain_of_isMark (hm : IsMark m) : isPlain m = true := by
  rcases hm with rfl | rfl <;> decide

theorem shows_tagged {tag : Char} (htag : isPlain tag = true) (hds : ds.all isPlain = true) :
    Shows printable ('\\' :: tag :: ds) := by
  have hslash : isPlain '\\' = true := by decide
  exact shows_plain printable (by simp only [List.all_cons, hslash, htag, hds, Bool.and_self])

theorem shows_escape (hm : IsMark m) (printable : Char → Bool) (c : Char) :
    Shows printable (escape printable m c) := by
  unfold escape
  split_ifs with hslash hn hr ht hp hx hu
  · have hc : isPlain c = true := by
      rcases hslash with rfl | rfl
      · exact isPlain_of_isMark hm
      · decide
    exact shows_tagged hc rfl
  · exact shows_tagged (by decide) rfl
  · exact shows_tagged (by decide) rfl
  · exact shows_tagged (by decide) rfl
  · exact List.forall_mem_singleton.mpr (.inl hp)
  · exact shows_tagged (by decide) (all_isPlain_hex 2 _)
  · exact shows_tagged (by decide) (all_isPlain_hex 4 _)
  · exact shows_tagged (by decide) (all_isPlain_hex 8 _)

theorem escaped_append_inj (hm : IsMark m)
    (h : cs.flatMap (escape printable m) ++ m :: rest =
      ds.flatMap (escape printable' m) ++ m :: rest') : cs = ds ∧ rest = rest' := by
  induction cs generalizing ds with
  | nil =>
    cases ds with
    | nil => exact ⟨rfl, (List.cons.inj h).2⟩
    | cons d ds =>
      rw [List.flatMap_cons, List.append_assoc] at h
      exact absurd h.symm (escape_append_ne_mark hm printable' d _ _)
  | cons c cs ih =>
    cases ds with
    | nil =>
      rw [List.flatMap_cons, List.append_assoc] at h
      exact absurd h (escape_append_ne_mark hm printable c _ _)
    | cons d ds =>
      rw [List.flatMap_cons, List.flatMap_cons, List.append_assoc, List.append_assoc] at h
      have hfirst := congrArg unescape h
      rw [unescape_escape hm, unescape_escape hm, Option.some.injEq, Prod.mk.injEq] at hfirst
      obtain ⟨rfl, hbehind⟩ := hfirst
      obtain ⟨rfl, hrest⟩ := ih hbehind
      exact ⟨rfl, hrest⟩

end Escape

theorem encode_append_inj
    (h : encode printable cs ++ rest = encode printable' ds ++ rest') : cs = ds ∧ rest = rest' := by
  have hmark : mark cs = mark ds := (List.cons.inj h).1
  simp only [encode, List.cons_append, List.append_assoc, hmark, List.cons.injEq, true_and] at h
  exact escaped_append_inj (isMark_mark ds) h

theorem shows_encode (printable : Char → Bool) (cs : List Char) :
    Shows printable (encode printable cs) := by
  have hmark : Shows printable [mark cs] :=
    List.forall_mem_singleton.mpr (.inr (isPlain_of_isMark (isMark_mark cs)))
  have hbody : Shows printable (cs.flatMap (escape printable (mark cs))) := by
    intro d hd
    obtain ⟨c, -, hd⟩ := List.mem_flatMap.mp hd
    exact shows_escape (isMark_mark cs) printable c d hd
  exact (hmark.append hbody).append hmark

end Quoted

end Calculator

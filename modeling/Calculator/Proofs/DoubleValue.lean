import Calculator.Proofs.Binary64
import Calculator.Proofs.RoundedValue
import Calculator.Proofs.ShortNumbers

/-!
Simplification in doubles. Doubles have all the facts of `Arithmetic.Ieee`, so simplifying a tree keeps
its value, up to the sign of a zero, wherever that is a number and no number of the tree is too long for
the log. Where the value is none, there may be none left: a zero that an infinity had turned into NaN can
become a divisor.
-/

namespace Calculator.Double

open Float.Model (UnpackedFloat Format totalExponent)
open Float.Model.UnpackedFloat

variable {x y x' y' : Float} {u v w u' w' : UnpackedFloat}
variable {f : UnpackedFloat → UnpackedFloat → UnpackedFloat}

def UpToSign (u v : UnpackedFloat) : Prop := u = v ∨ (∃ s, u = .zero s) ∧ ∃ s, v = .zero s

def special : Special Float where
  zero := 0
  negativeZero := -0
  one := 1
  isNaN := Float.isNaN

theorem isZero_iff_view : special.IsZero x ↔ ∃ s, view x = .zero s := by
  constructor
  · rintro (rfl | rfl)
    · exact ⟨.positive, rfl⟩
    · exact ⟨.negative, rfl⟩
  · rintro ⟨s, h⟩
    rw [eq_of_view h]
    cases s with
    | positive => exact .inl rfl
    | negative => exact .inr rfl

theorem isZero_ofView (s : Sign) : special.IsZero (ofView (.zero s)) :=
  isZero_iff_view.mpr ⟨s, view_ofView_zero s⟩

theorem UpToSign.ofView (h : UpToSign u v) : special.UpToZeroSign (ofView u) (ofView v) := by
  rcases h with rfl | ⟨⟨s, rfl⟩, s', rfl⟩
  · exact .refl _
  · exact .inr ⟨isZero_ofView s, isZero_ofView s'⟩

theorem upToZeroSign_ofView (h : UpToSign u (view x)) : special.UpToZeroSign (ofView u) x := by
  have hx := h.ofView
  rw [ofView_view] at hx
  exact hx

theorem mul_view_one (x : Float) : mul Format.binary64 (view x) (view 1) = view x := by
  rw [view_one]
  cases hx : view x with
  | notANumber => rfl
  | infinity s => exact congrArg UnpackedFloat.infinity (mul_positive s)
  | zero s => exact congrArg UnpackedFloat.zero (mul_positive s)
  | finite s m e hm => exact mul_one_finite s hm (canonical_of_view hx)

theorem view_one_mul (x : Float) : mul Format.binary64 (view 1) (view x) = view x := by
  rw [view_one]
  cases hx : view x with
  | notANumber => rfl
  | infinity s => exact congrArg UnpackedFloat.infinity (positive_mul s)
  | zero s => exact congrArg UnpackedFloat.zero (positive_mul s)
  | finite s m e hm => exact one_mul_finite s hm (canonical_of_view hx)

theorem div_view_one (x : Float) : div Format.binary64 (view x) (view 1) = view x := by
  rw [view_one]
  cases hx : view x with
  | notANumber => rfl
  | infinity s => exact congrArg UnpackedFloat.infinity (div_positive s)
  | zero s => exact congrArg UnpackedFloat.zero (div_positive s)
  | finite s m e hm => exact div_one_finite s hm (canonical_of_view hx)

theorem mul_one (x : Float) : x * 1 = x := (congrArg ofView (mul_view_one x)).trans (ofView_view x)

theorem one_mul (x : Float) : 1 * x = x := (congrArg ofView (view_one_mul x)).trans (ofView_view x)

theorem div_one (x : Float) : x / 1 = x := (congrArg ofView (div_view_one x)).trans (ofView_view x)

theorem sub_zero (x : Float) : x - 0 = x := by
  change ofView (sub Format.binary64 (view x) (.zero .positive)) = x
  have hs : sub Format.binary64 (view x) (.zero .positive) = view x := by
    rcases view x with s | _ | (_ | _) | _ <;> rfl
  rw [hs, ofView_view]

theorem add_zeros (s t : Sign) : ∃ r, add Format.binary64 (.zero s) (.zero t) = .zero r := by
  cases s <;> cases t <;> exact ⟨_, rfl⟩

theorem add_zero (x : Float) : special.UpToZeroSign (x + 0) x := by
  have h : UpToSign (add Format.binary64 (view x) (.zero .positive)) (view x) := by
    cases view x with
    | zero s => exact .inr ⟨add_zeros s .positive, s, rfl⟩
    | notANumber => exact .inl rfl
    | infinity s => exact .inl rfl
    | finite s m e hm => exact .inl rfl
  exact upToZeroSign_ofView h

theorem zero_add (x : Float) : special.UpToZeroSign (0 + x) x := by
  have h : UpToSign (add Format.binary64 (.zero .positive) (view x)) (view x) := by
    cases view x with
    | zero s => exact .inr ⟨add_zeros .positive s, s, rfl⟩
    | notANumber => exact .inl rfl
    | infinity s => exact .inl rfl
    | finite s m e hm => exact .inl rfl
  exact upToZeroSign_ofView h

theorem zeroOrNaN_zero (s : Sign) : special.ZeroOrNaN (ofView (.zero s)) := .inl (isZero_ofView s)

theorem zeroOrNaN_nan : special.ZeroOrNaN (ofView .notANumber) := .inr rfl

theorem mul_zero (x : Float) : special.ZeroOrNaN (x * 0) := by
  change special.ZeroOrNaN (ofView (mul Format.binary64 (view x) (.zero .positive)))
  cases view x with
  | notANumber => exact zeroOrNaN_nan
  | infinity s => exact zeroOrNaN_nan
  | zero s => exact zeroOrNaN_zero _
  | finite s m e hm => exact zeroOrNaN_zero _

theorem zero_mul (x : Float) : special.ZeroOrNaN (0 * x) := by
  change special.ZeroOrNaN (ofView (mul Format.binary64 (.zero .positive) (view x)))
  cases view x with
  | notANumber => exact zeroOrNaN_nan
  | infinity s => exact zeroOrNaN_nan
  | zero s => exact zeroOrNaN_zero _
  | finite s m e hm => exact zeroOrNaN_zero _

theorem zero_div (x : Float) : special.ZeroOrNaN (0 / x) := by
  change special.ZeroOrNaN (ofView (div Format.binary64 (.zero .positive) (view x)))
  cases view x with
  | notANumber => exact zeroOrNaN_nan
  | infinity s => exact zeroOrNaN_zero _
  | zero s => exact zeroOrNaN_nan
  | finite s m e hm => exact zeroOrNaN_zero _

end Calculator.Double

namespace Calculator.Tree

end Calculator.Tree

/-! Decimals: a sign, a mantissa below `2 ^ 96` and a scale, with value `± mantissa / 10 ^ scale`.
The scale is part of a decimal's identity (`1.50` is not `1.5`), and so is the sign of a zero, which
only negation gives; comparison is by value alone. -/

namespace TransferLedger

def Decimal.mantissaBound : Nat := Nat.pow 2 96

/-- A decimal number `(-1) ^ negative * mantissa / 10 ^ scale`. -/
structure Decimal where
  mantissa : Nat
  scale : Nat
  negative : Bool
  fits : mantissa < Decimal.mantissaBound
  deriving DecidableEq, Repr

namespace Decimal

def maxScale : Nat := 28

theorem zero_lt_mantissaBound : 0 < mantissaBound := by decide

def zero : Decimal := ⟨0, 0, false, zero_lt_mantissaBound⟩

instance : Inhabited Decimal := ⟨zero⟩

theorem natAbs_toInt_lt (i : Int64) : i.toInt.natAbs < mantissaBound := by
  have upper := Int64.toInt_lt i
  have lower := Int64.le_toInt i
  have bound : mantissaBound = 79228162514264337593543950336 := rfl
  omega

def ofInt64 (i : Int64) : Decimal := ⟨i.toInt.natAbs, 0, decide (i.toInt < 0), natAbs_toInt_lt i⟩

/-- The decimal whose mantissa is the low 96 bits of `m`, as the three 32-bit words of the
representation hold them; a zero carries no sign. -/
def ofParts (m scale : Nat) (negative : Bool) : Decimal :=
  ⟨m % mantissaBound, scale, negative && m % mantissaBound != 0, Nat.mod_lt m (by decide)⟩

theorem ofParts_of_lt {m : Nat} (fits : m < mantissaBound) (scale : Nat) (negative : Bool) :
    ofParts m scale negative = ⟨m, scale, negative && m != 0, fits⟩ := by
  simp [ofParts, Nat.mod_eq_of_lt fits]

def isZero (d : Decimal) : Bool := d.mantissa == 0

def neg (d : Decimal) : Decimal := { d with negative := !d.negative }

/-- The value counted in units of `10 ^ -s`, for `s` at least the decimal's scale. -/
def unitsAt (d : Decimal) (s : Nat) : Int :=
  let magnitude : Int := (d.mantissa * Nat.pow 10 (s - d.scale) : Nat)
  if d.negative then -magnitude else magnitude

def compareValue (a b : Decimal) : Ordering :=
  let s := max a.scale b.scale
  compare (a.unitsAt s) (b.unitsAt s)

def lt (a b : Decimal) : Bool := compareValue a b == .lt

def le (a b : Decimal) : Bool := compareValue a b != .gt

def sameValue (a b : Decimal) : Bool := compareValue a b == .eq

theorem le_eq_not_lt (a b : Decimal) : a.le b = !b.lt a := by
  have swapped : compareValue b a = (compareValue a b).swap := by
    simp only [compareValue, Nat.max_comm b.scale a.scale]
    exact Std.OrientedOrd.eq_swap
  rw [le, lt, swapped]
  cases compareValue a b <;> rfl

theorem lt_zero_eq_false_iff (d : Decimal) :
    d.lt zero = false ↔ d.negative = false ∨ d.mantissa = 0 := by
  simp only [lt, compareValue, unitsAt, zero]
  cases d.negative <;> simp [Int.compare_eq_lt]

theorem le_zero_eq_false_iff (d : Decimal) :
    d.le zero = false ↔ d.negative = false ∧ 0 < d.mantissa := by
  simp only [le, compareValue, unitsAt, zero]
  cases d.negative <;> simp [Int.compare_eq_gt, Nat.pos_iff_ne_zero]

theorem zero_lt_iff (d : Decimal) : zero.lt d = true ↔ d.negative = false ∧ 0 < d.mantissa := by
  rw [← le_zero_eq_false_iff, le_eq_not_lt]
  cases zero.lt d <;> simp

theorem not_le_zero_iff (d : Decimal) : ¬ d.le zero = true ↔ zero.lt d = true := by
  rw [le_eq_not_lt]
  cases zero.lt d <;> simp

/-! ## Shortest forms -/

def stripZeros : Nat → Nat → Nat × Nat
  | m, 0 => (m, 0)
  | m, s + 1 => if m % 10 = 0 then stripZeros (m / 10) s else (m, s + 1)

/-- Stripping trailing zeros gives back the mantissa scaled down by the places it drops, and stops
at no place or at a last digit that is not zero. -/
theorem stripZeros_spec : ∀ (m s : Nat),
    (stripZeros m s).2 ≤ s ∧ m = (stripZeros m s).1 * Nat.pow 10 (s - (stripZeros m s).2) ∧
      ((stripZeros m s).2 = 0 ∨ (stripZeros m s).1 % 10 ≠ 0)
  | m, 0 => by simp [stripZeros]
  | m, s + 1 => by
    unfold stripZeros
    split
    · rename_i ends
      obtain ⟨dropped, scaled, stops⟩ := stripZeros_spec (m / 10) s
      refine ⟨by omega, ?_, stops⟩
      have shift : s + 1 - (stripZeros (m / 10) s).2 = s - (stripZeros (m / 10) s).2 + 1 := by
        omega
      have power : ∀ k, Nat.pow 10 (k + 1) = Nat.pow 10 k * 10 := fun _ => rfl
      rw [shift, power, ← Nat.mul_assoc, ← scaled]
      omega
    · rename_i ends
      exact ⟨Nat.le_refl _, by simp, .inr ends⟩

theorem stripZeros_fst_le (m s : Nat) : (stripZeros m s).1 ≤ m := by
  have scaled := (stripZeros_spec m s).2.1
  calc (stripZeros m s).1 ≤ (stripZeros m s).1 * Nat.pow 10 (s - (stripZeros m s).2) :=
        Nat.le_mul_of_pos_right _ (Nat.pow_pos (by decide))
    _ = m := scaled.symm

theorem stripZeros_ne_zero {m : Nat} (s : Nat) (nonzero : m ≠ 0) : (stripZeros m s).1 ≠ 0 := by
  intro zeroed
  have scaled := (stripZeros_spec m s).2.1
  rw [zeroed, Nat.zero_mul] at scaled
  exact nonzero scaled

theorem stripZeros_of_stops {m s : Nat} (stops : s = 0 ∨ m % 10 ≠ 0) :
    stripZeros m s = (m, s) := by
  cases s with
  | zero => rfl
  | succ s =>
    unfold stripZeros
    simp [stops.resolve_left (Nat.succ_ne_zero s)]

/-- The shortest form of the same value: no trailing zeros in the fraction, and a zero becomes
the plain zero. -/
def normalize (d : Decimal) : Decimal :=
  if d.mantissa = 0 then zero
  else
    ⟨(stripZeros d.mantissa d.scale).1, (stripZeros d.mantissa d.scale).2, d.negative,
      Nat.lt_of_le_of_lt (stripZeros_fst_le _ _) d.fits⟩

theorem normalize_of_stops {d : Decimal} (nonzero : d.mantissa ≠ 0)
    (stops : d.scale = 0 ∨ d.mantissa % 10 ≠ 0) : d.normalize = d := by
  simp [normalize, nonzero, stripZeros_of_stops stops]

theorem normalize_eq_of_nonzero {d : Decimal} (nonzero : d.mantissa ≠ 0) :
    d.normalize = ⟨(stripZeros d.mantissa d.scale).1, (stripZeros d.mantissa d.scale).2,
      d.negative, Nat.lt_of_le_of_lt (stripZeros_fst_le _ _) d.fits⟩ := by
  simp [normalize, nonzero]

theorem normalize_stops (d : Decimal) :
    d.normalize.scale = 0 ∨ d.normalize.mantissa % 10 ≠ 0 := by
  by_cases zeroed : d.mantissa = 0
  · simp [normalize, zeroed, zero]
  · rw [normalize_eq_of_nonzero zeroed]
    exact (stripZeros_spec d.mantissa d.scale).2.2

theorem normalize_normalize (d : Decimal) : d.normalize.normalize = d.normalize := by
  by_cases zeroed : d.mantissa = 0
  · simp [normalize, zeroed, zero]
  · apply normalize_of_stops _ (normalize_stops d)
    rw [normalize_eq_of_nonzero zeroed]
    exact stripZeros_ne_zero d.scale zeroed

theorem normalize_sameValue (d : Decimal) : d.normalize.sameValue d = true := by
  by_cases zeroed : d.mantissa = 0
  · simp [normalize, zeroed, zero, sameValue, compareValue, unitsAt]
  · obtain ⟨dropped, scaled, -⟩ := stripZeros_spec d.mantissa d.scale
    rw [normalize_eq_of_nonzero zeroed]
    have finer : max (stripZeros d.mantissa d.scale).2 d.scale = d.scale := Nat.max_eq_right dropped
    simp only [sameValue, compareValue, unitsAt, finer, Nat.sub_self]
    rw [← scaled]
    cases d.negative <;> simp

example : normalize ⟨1050, 2, false, by decide⟩ = ⟨105, 1, false, by decide⟩ := by decide

theorem zero_lt_normalize {d : Decimal} (positive : zero.lt d = true) :
    zero.lt d.normalize = true := by
  obtain ⟨unsigned, nonzero⟩ := (zero_lt_iff d).mp positive
  have nonzero := Nat.pos_iff_ne_zero.mp nonzero
  rw [zero_lt_iff, normalize_eq_of_nonzero nonzero]
  exact ⟨unsigned, Nat.pos_iff_ne_zero.mpr (stripZeros_ne_zero d.scale nonzero)⟩

end Decimal

end TransferLedger

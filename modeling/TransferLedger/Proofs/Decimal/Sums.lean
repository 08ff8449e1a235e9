import TransferLedger.Decimal.Arith

/-! Sums that stay in range and keep their sign. Subtracting a positive value from a balance that
covers it never overflows, and neither that difference nor a sum of two unsigned values is below
zero. -/

namespace TransferLedger.Decimal

theorem mantissa_ne_zero_of_pos {d : Decimal} (positive : d.le zero = false) : d.mantissa ≠ 0 :=
  Nat.pos_iff_ne_zero.mp ((le_zero_eq_false_iff d).mp positive).2

@[simp] theorem isZero_eq_false {d : Decimal} : d.isZero = false ↔ d.mantissa ≠ 0 := by
  simp [isZero]

@[simp] theorem neg_mantissa (d : Decimal) : d.neg.mantissa = d.mantissa := rfl

@[simp] theorem neg_scale (d : Decimal) : d.neg.scale = d.scale := rfl

@[simp] theorem neg_negative (d : Decimal) : d.neg.negative = !d.negative := rfl

@[simp] theorem isZero_neg (d : Decimal) : d.neg.isZero = d.isZero := rfl

theorem unitsAt_neg (d : Decimal) (s : Nat) : d.neg.unitsAt s = -d.unitsAt s := by
  obtain ⟨mantissa, scale, negative⟩ := d
  cases negative <;> simp [unitsAt, neg]

theorem unitsAt_of_unsigned {d : Decimal} (unsigned : d.negative = false) (s : Nat) :
    d.unitsAt s = ((d.mantissa * Nat.pow 10 (s - d.scale) : Nat) : Int) := by
  simp [unitsAt, unsigned]

theorem pow_ten_pos (k : Nat) : 0 < Nat.pow 10 k := Nat.pow_pos (by decide)

theorem zero_at_lt (s : Nat) : (⟨0, s, false, by decide⟩ : Decimal).lt zero = false :=
  (lt_zero_eq_false_iff _).mpr (.inl rfl)

/-! ### Dropping digits -/

theorem dropCountWithin_le :
    ∀ (fuel n j : Nat), n / Nat.pow 10 j < mantissaBound → dropCountWithin fuel n ≤ j
  | 0, _, _, _ => Nat.zero_le _
  | fuel + 1, n, j, fits => by
    unfold dropCountWithin
    split
    · exact Nat.zero_le _
    · rename_i tooLarge
      cases j with
      | zero => exact absurd (by simpa using fits) tooLarge
      | succ j =>
        -- one digit goes now, `j` more suffice for the rest
        have rest : n / 10 / Nat.pow 10 j < mantissaBound := by
          rwa [Nat.div_div_eq_div_mul, Nat.mul_comm]
        exact Nat.succ_le_succ (dropCountWithin_le fuel (n / 10) j rest)

theorem dropCount_le {n j : Nat} (fits : n / Nat.pow 10 j < mantissaBound) : dropCount n ≤ j :=
  dropCountWithin_le n n j fits

theorem divRoundEven_le {n m k : Nat} (below : n < m * Nat.pow 10 k) : divRoundEven n k ≤ m := by
  have positive : 0 < Nat.pow 10 k := pow_ten_pos k
  have quotient : n / Nat.pow 10 k < m := (Nat.div_lt_iff_lt_mul positive).mpr below
  unfold divRoundEven
  simp only
  split <;> omega

theorem fit_negative {n s : Nat} {negative : Bool} {c : Decimal}
    (fitted : fit n s negative = some c) : c.negative = negative := by
  unfold fit at fitted
  simp only at fitted
  split at fitted
  · cases fitted
  · split at fitted
    · cases fitted
      rfl
    · split at fitted
      · cases fitted
      · cases fitted
        rfl

/-- A mantissa below a fitting `m` shifted by `d` places fits once at most `d` digits go, so a
scale with `d` places to give up always brings it into range. -/
theorem fit_of_below {n m d s : Nat} (negative : Bool) (fits : m < mantissaBound)
    (below : n < m * Nat.pow 10 d) (room : d ≤ s) : ∃ c, fit n s negative = some c := by
  have positive : 0 < Nat.pow 10 d := pow_ten_pos d
  have dropped : dropCount n ≤ d := by
    have quotient : n / Nat.pow 10 d < m := (Nat.div_lt_iff_lt_mul positive).mpr below
    exact dropCount_le (Nat.lt_trans quotient fits)
  unfold fit
  simp only
  split
  · omega
  · split
    · exact ⟨_, rfl⟩
    · rename_i tooLarge
      split
      · have all : dropCount n = d := by omega
        have rounded : divRoundEven n (dropCount n) ≤ m := divRoundEven_le (all ▸ below)
        omega
      · exact ⟨_, rfl⟩

theorem mantissa_ne_zero_of_covers {a balance : Decimal} (positive : a.le zero = false)
    (funded : balance.lt a = false) : balance.mantissa ≠ 0 := by
  obtain ⟨unsigned, magnitude⟩ := (le_zero_eq_false_iff a).mp positive
  intro zeroed
  have units :
      a.unitsAt (max balance.scale a.scale) ≤ balance.unitsAt (max balance.scale a.scale) := by
    simpa [lt, compareValue, Int.compare_eq_lt] using funded
  rw [unitsAt_of_unsigned unsigned] at units
  have shifted : 0 < a.mantissa * Nat.pow 10 (max balance.scale a.scale - a.scale) :=
    Nat.mul_pos magnitude (pow_ten_pos _)
  simp only [unitsAt, zeroed, Nat.zero_mul, Int.natCast_zero, Int.neg_zero, ite_self] at units
  omega

/-! ### Sums -/

/-- Subtracting a positive value that a balance covers gives a result, and it is not below
zero. -/
theorem sub?_of_covered {a b : Decimal} (positive : b.le zero = false) (covered : b.le a = true) :
    ∃ c, a.sub? b = some c ∧ c.lt zero = false := by
  obtain ⟨bUnsigned, bPositive⟩ := (le_zero_eq_false_iff b).mp positive
  have units : b.unitsAt (max a.scale b.scale) ≤ a.unitsAt (max a.scale b.scale) := by
    simpa [le, compareValue, Nat.max_comm b.scale a.scale, Int.compare_eq_gt] using covered
  rw [unitsAt_of_unsigned bUnsigned] at units
  have bMagnitude : 0 < b.mantissa * Nat.pow 10 (max a.scale b.scale - b.scale) :=
    Nat.mul_pos bPositive (pow_ten_pos _)
  have aUnsigned : a.negative = false := by
    cases signed : a.negative
    · rfl
    · simp only [unitsAt, signed, if_true] at units
      omega
  rw [unitsAt_of_unsigned aUnsigned] at units
  have aNonzero : a.mantissa ≠ 0 := by
    intro zeroed
    simp only [zeroed, Nat.zero_mul] at units
    omega
  simp only [sub?, combine, isZero_eq_false.mpr aNonzero,
    isZero_eq_false.mpr (Nat.pos_iff_ne_zero.mp bPositive), Bool.false_eq_true, if_false,
    neg_scale, unitsAt_neg, unitsAt_of_unsigned aUnsigned, unitsAt_of_unsigned bUnsigned]
  split
  · exact ⟨_, rfl, zero_at_lt _⟩
  · -- the difference is below the balance's own units, so the balance's places absorb it
    have difference : (((a.mantissa * Nat.pow 10 (max a.scale b.scale - a.scale) : Nat) : Int) +
        -((b.mantissa * Nat.pow 10 (max a.scale b.scale - b.scale) : Nat) : Int)).natAbs <
        a.mantissa * Nat.pow 10 (max a.scale b.scale - a.scale) := by
      omega
    obtain ⟨c, fitted⟩ := fit_of_below _ a.fits difference (Nat.sub_le _ _)
    refine ⟨c, fitted, ?_⟩
    rw [lt_zero_eq_false_iff, fit_negative fitted, decide_eq_false_iff_not]
    left
    omega

theorem unitsAt_nonneg {d : Decimal} (signed : d.lt zero = false) (s : Nat) :
    0 ≤ d.unitsAt s := by
  rcases (lt_zero_eq_false_iff d).mp signed with unsigned | zeroed
  · rw [unitsAt_of_unsigned unsigned]
    omega
  · simp [unitsAt, zeroed]

/-- A sum of two values that are not below zero is not below zero. -/
theorem add?_not_negative {a b c : Decimal} (aSigned : a.lt zero = false)
    (bSigned : b.lt zero = false) (added : a.add? b = some c) : c.lt zero = false := by
  unfold add? at added
  split at added
  · cases added
    exact bSigned
  · split at added
    · cases added
      exact aSigned
    · unfold combine at added
      simp only at added
      split at added
      · cases added
        exact zero_at_lt _
      · have aUnits := unitsAt_nonneg aSigned (max a.scale b.scale)
        have bUnits := unitsAt_nonneg bSigned (max a.scale b.scale)
        rw [lt_zero_eq_false_iff, fit_negative added, decide_eq_false_iff_not]
        left
        omega

theorem add?_neg {a b : Decimal} (nonzero : b.mantissa ≠ 0) : a.add? b.neg = a.sub? b := by
  simp [add?, sub?, isZero_eq_false.mpr nonzero]

theorem add?_neg_self {a : Decimal} (nonzero : a.mantissa ≠ 0) :
    a.neg.add? a = some ⟨0, a.scale, false, by decide⟩ := by
  have cancel : a.neg.unitsAt a.scale + a.unitsAt a.scale = 0 := by
    rw [unitsAt_neg]
    exact Int.add_left_neg _
  simp [add?, combine, isZero_eq_false.mpr nonzero, cancel]

example :
    add? ⟨15, 1, true, by decide⟩ ⟨15, 1, false, by decide⟩ = some ⟨0, 1, false, by decide⟩ := by
  decide

end TransferLedger.Decimal

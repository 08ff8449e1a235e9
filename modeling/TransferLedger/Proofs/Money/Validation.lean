import TransferLedger.Transfer.Params
import TransferLedger.Proofs.Decimal.Sums

/-! A decimal becomes an amount only through `Amount.ofDecimal`: it must be above zero, and its
shortest form must have at most four places and be at most the largest amount. -/

namespace TransferLedger

namespace Amount

theorem ofDecimal_ok_iff (v : Decimal) (a : Amount) :
    ofDecimal v = .ok a ↔ Decimal.zero.lt v = true ∧ v.normalize.scale ≤ maxScale ∧
      v.normalize.le (Decimal.ofInt64 maxValue) = true ∧ a.value = v.normalize := by
  rw [Decimal.le_eq_not_lt v.normalize]
  unfold ofDecimal
  split
  · rename_i notPositive
    have below : ¬ Decimal.zero.lt v = true :=
      fun above => (Decimal.not_le_zero_iff v).mpr above notPositive
    simp [below]
  · rename_i positive
    have above := (Decimal.not_le_zero_iff v).mp positive
    dsimp only
    split
    · rename_i tooMany
      simp only [above, true_and, reduceCtorEq, false_iff, not_and]
      omega
    · rename_i places
      split
      · rename_i exceeds
        simp [exceeds]
      · rename_i bounded
        simp only [Except.ok.injEq, above, true_and]
        constructor
        · rintro rfl
          exact ⟨Nat.not_lt.mp places, by simpa using bounded, rfl⟩
        · rintro ⟨-, -, value⟩
          exact Amount.ext value.symm

theorem ofDecimal_error_iff (v : Decimal) (e : AmountError) :
    ofDecimal v = .error e ↔
      (Decimal.zero.lt v = false ∧ e = .notPositive v) ∨
      (Decimal.zero.lt v = true ∧ maxScale < v.normalize.scale ∧
        e = .tooManyDecimals v.normalize.scale) ∨
      (Decimal.zero.lt v = true ∧ v.normalize.scale ≤ maxScale ∧
        v.normalize.le (Decimal.ofInt64 maxValue) = false ∧ e = .overflow) := by
  rw [Decimal.le_eq_not_lt v.normalize]
  unfold ofDecimal
  split
  · rename_i notPositive
    have below : ¬ Decimal.zero.lt v = true :=
      fun above => (Decimal.not_le_zero_iff v).mpr above notPositive
    simp [below, eq_comm (a := e)]
  · rename_i positive
    have above := (Decimal.not_le_zero_iff v).mp positive
    dsimp only
    split
    · rename_i tooMany
      have beyond : ¬ v.normalize.scale ≤ maxScale := Nat.not_le.mpr tooMany
      simp [above, tooMany, beyond, eq_comm (a := e)]
    · rename_i places
      have within : v.normalize.scale ≤ maxScale := Nat.not_lt.mp places
      split
      · rename_i exceeds
        simp [above, places, within, exceeds, eq_comm (a := e)]
      · rename_i bounded
        simp [above, places, bounded]

theorem ofDecimal_value (a : Amount) : ofDecimal a.value = .ok a := by
  have shortest := a.valid.shortest
  refine (ofDecimal_ok_iff a.value a).mpr ⟨a.valid.positive, ?_, ?_, shortest.symm⟩
  · rw [shortest]
    exact a.valid.places
  · rw [shortest]
    exact a.valid.bounded

/-- A decimal becomes an amount exactly when it is above zero and its shortest form has at most
four places and is at most the largest amount; the amount is that shortest form, which has the
decimal's value and no trailing zero. Otherwise the error names the first check that fails. Every
amount is above zero, at most the largest amount, has at most four places and is in its shortest
form, and the checks accept its value as that amount again. -/
theorem ofDecimal_validates_every_amount :
    (∀ v a, ofDecimal v = .ok a ↔ Decimal.zero.lt v = true ∧ v.normalize.scale ≤ maxScale ∧
        v.normalize.le (Decimal.ofInt64 maxValue) = true ∧ a.value = v.normalize) ∧
    (∀ v : Decimal, v.normalize.sameValue v = true ∧
        (v.normalize.scale = 0 ∨ v.normalize.mantissa % 10 ≠ 0)) ∧
    (∀ v e, ofDecimal v = .error e ↔
      (Decimal.zero.lt v = false ∧ e = .notPositive v) ∨
      (Decimal.zero.lt v = true ∧ maxScale < v.normalize.scale ∧
        e = .tooManyDecimals v.normalize.scale) ∨
      (Decimal.zero.lt v = true ∧ v.normalize.scale ≤ maxScale ∧
        v.normalize.le (Decimal.ofInt64 maxValue) = false ∧ e = .overflow)) ∧
    (∀ a : Amount, (Decimal.zero.lt a.value = true ∧
        a.value.le (Decimal.ofInt64 maxValue) = true ∧ a.value.scale ≤ maxScale ∧
        a.value.normalize = a.value) ∧ ofDecimal a.value = .ok a) :=
  ⟨ofDecimal_ok_iff, fun v => ⟨v.normalize_sameValue, v.normalize_stops⟩, ofDecimal_error_iff,
    fun a => ⟨⟨a.valid.positive, a.valid.bounded, a.valid.places, a.valid.shortest⟩,
      ofDecimal_value a⟩⟩

end Amount

end TransferLedger

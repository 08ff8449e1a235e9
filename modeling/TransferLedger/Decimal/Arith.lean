import TransferLedger.Decimal.Basic

/-! Checked sums of decimals. A sum is exact at the finer scale when its mantissa fits in 96 bits,
and otherwise drops the fewest trailing digits, rounding half to even. Adding to a zero gives the
other operand unchanged, and an exact zero sum is an unsigned zero at the finer scale (`-5 + 5.00 =
0.00`). -/

namespace TransferLedger.Decimal

def dropCountWithin : Nat → Nat → Nat
  | 0, _ => 0
  | fuel + 1, n => if n < mantissaBound then 0 else dropCountWithin fuel (n / 10) + 1

/-- How many trailing digits must go before `n` fits under the mantissa bound. Each step divides
by ten, so `n` steps always suffice. -/
def dropCount (n : Nat) : Nat := dropCountWithin n n

theorem div_pow_dropCountWithin_lt :
    ∀ (fuel n : Nat), n / Nat.pow 10 fuel < mantissaBound →
      n / Nat.pow 10 (dropCountWithin fuel n) < mantissaBound
  | 0, _, fits => fits
  | fuel + 1, n, fits => by
    unfold dropCountWithin
    split
    · simpa using ‹n < mantissaBound›
    · have rest : n / 10 / Nat.pow 10 fuel < mantissaBound := by
        rwa [Nat.div_div_eq_div_mul, Nat.mul_comm]
      have dropped := div_pow_dropCountWithin_lt fuel (n / 10) rest
      rwa [Nat.div_div_eq_div_mul, Nat.mul_comm] at dropped

theorem div_pow_dropCount_lt (n : Nat) : n / Nat.pow 10 (dropCount n) < mantissaBound := by
  apply div_pow_dropCountWithin_lt
  have below : n < Nat.pow 10 n := Nat.lt_pow_self (by decide)
  rw [Nat.div_eq_of_lt below]
  decide

/-- `n / 10 ^ k` rounded to the nearest integer; an exact half goes to the even neighbour. -/
def divRoundEven (n k : Nat) : Nat :=
  let p := Nat.pow 10 k
  let q := n / p
  let r := n % p
  if 2 * r > p || (2 * r == p && q % 2 == 1) then q + 1 else q

theorem divRoundEven_le_succ (n k : Nat) : divRoundEven n k ≤ n / Nat.pow 10 k + 1 := by
  unfold divRoundEven
  simp only
  split <;> omega

theorem divRoundEven_dropCount_le (m : Nat) : divRoundEven m (dropCount m) ≤ mantissaBound :=
  Nat.le_trans (divRoundEven_le_succ m _) (div_pow_dropCount_lt m)

theorem divRoundEven_one_lt {q : Nat} (atMost : q ≤ mantissaBound) :
    divRoundEven q 1 < mantissaBound := by
  have rounded : divRoundEven q 1 ≤ q / 10 + 1 := divRoundEven_le_succ q 1
  have bound : mantissaBound = 79228162514264337593543950336 := rfl
  omega

/-- An exact nonzero result `± m / 10 ^ s` brought into range: the fewest digits are dropped and
rounded half to even, and if rounding reaches the bound one more digit goes. `none` when the
scale has too few places to give up. -/
def fit (m s : Nat) (negative : Bool) : Option Decimal :=
  let k := dropCount m
  if s < k then none
  else
    let q := divRoundEven m k
    if fits : q < mantissaBound then some ⟨q, s - k, negative, fits⟩
    else if s < k + 1 then none
    else some ⟨divRoundEven q 1, s - (k + 1), negative,
      divRoundEven_one_lt (divRoundEven_dropCount_le m)⟩

def combine (a b : Decimal) : Option Decimal :=
  let s := max a.scale b.scale
  let total := a.unitsAt s + b.unitsAt s
  if total = 0 then some ⟨0, s, false, zero_lt_mantissaBound⟩
  else fit total.natAbs s (decide (total < 0))

def add? (a b : Decimal) : Option Decimal :=
  if a.isZero then some b
  else if b.isZero then some a
  else combine a b

/-- `a - b`, or `none` on overflow. Subtracting from a zero negates the other operand, unless
that is a zero too. -/
def sub? (a b : Decimal) : Option Decimal :=
  if a.isZero then some (if b.isZero then b else b.neg)
  else if b.isZero then some a
  else combine a b.neg

/-- `d * 10 ^ k` for a shift `10 ^ k` that fits in 64 bits, brought into range; a zero product is
the plain zero. -/
def shiftLeft? (d : Decimal) (k : Nat) : Option Decimal :=
  if d.isZero then some zero
  else fit (d.mantissa * Nat.pow 10 k) d.scale d.negative

end TransferLedger.Decimal

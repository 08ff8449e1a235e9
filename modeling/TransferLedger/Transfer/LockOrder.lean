import TransferLedger.Transfer.Params

/-! Every transaction that locks two accounts locks the lower id first, whatever the direction of
the transfer. -/

namespace TransferLedger

/-- Two account ids as they must be locked: the lower first. -/
def canonicalOrder (a b : AccountId) : AccountId × AccountId :=
  if a ≤ b then (a, b) else (b, a)

theorem canonicalOrder_le (a b : AccountId) : (canonicalOrder a b).1 ≤ (canonicalOrder a b).2 := by
  unfold canonicalOrder
  split <;> dsimp only <;> simp only [AccountId] at * <;> omega

theorem canonicalOrder_comm (a b : AccountId) : canonicalOrder a b = canonicalOrder b a := by
  unfold canonicalOrder
  split <;> split <;> ext <;> dsimp only <;> simp only [AccountId] at * <;> omega

end TransferLedger

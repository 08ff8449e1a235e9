import TransferLedger.Proofs.Decimal.Text
import TransferLedger.Proofs.Money.Validation

/-! Printed amounts read back, from their text and from their JSON form, and so do transfer
requests. -/

namespace TransferLedger

namespace Text

theorem trimBlank_of_unblank {s : String} (unblank : ∀ c ∈ s.toList, isBlank c = false) :
    trimBlank s = s := by
  have front : s.toList.dropWhile isBlank = s.toList := by
    cases chars : s.toList with
    | nil => rfl
    | cons c rest =>
      rw [chars] at unblank
      exact List.dropWhile_cons_of_neg (by simp [unblank c List.mem_cons_self])
  have back : s.toList.reverse.dropWhile isBlank = s.toList.reverse := by
    cases chars : s.toList.reverse with
    | nil => rfl
    | cons c rest =>
      have last : c ∈ s.toList := List.mem_reverse.mp (chars ▸ List.mem_cons_self)
      exact List.dropWhile_cons_of_neg (by simp [unblank c last])
  rw [trimBlank, front, back, List.reverse_reverse, String.ofList_toList]

example : trimBlank "a b" = "a b" := by decide

theorem isBlank_of_isDigit {c : Char} (digit : c.isDigit = true) : isBlank c = false := by
  have range := Decimal.toNat_of_isDigit digit
  simp only [isBlank, Bool.or_eq_false_iff, Bool.and_eq_false_iff, decide_eq_false_iff_not,
    beq_eq_false_iff_ne]
  omega

end Text

namespace Amount

theorem unsigned (a : Amount) : a.value.negative = false :=
  ((Decimal.zero_lt_iff _).mp a.valid.positive).1

theorem render_unblank (a : Amount) : ∀ c ∈ a.render.toList, Text.isBlank c = false := by
  intro c member
  rcases Decimal.mem_render member with digit | rfl | rfl
  · exact Text.isBlank_of_isDigit digit
  · decide
  · decide

theorem read_render (a : Amount) : read a.render = .ok a := by
  have decoded : Decimal.read a.render = .ok a.value :=
    Decimal.read_render (Nat.le_trans a.valid.places (by decide))
      (fun signed => absurd signed (by simp [a.unsigned]))
  unfold read
  rw [Text.trimBlank_of_unblank a.render_unblank, decoded]
  exact ofDecimal_value a

theorem fromJson_toJson (a : Amount) : fromJson a.toJson = .ok a := by
  simp [fromJson, toJson, Json.decodeString, bind, Except.bind, read_render a]

end Amount

namespace TransferParams

theorem decodeI64_ofInt {i : Int} (fits : i < (Nat.pow 2 63 : Nat)) :
    Json.decodeI64 (Json.ofInt i) = .ok i := by
  unfold Json.ofInt
  split
  · rfl
  · rename_i nonneg
    have natural : ((i.toNat : Nat) : Int) = i := Int.toNat_of_nonneg (Int.not_lt.mp nonneg)
    have below : i.toNat < Nat.pow 2 63 := by omega
    simp [Json.decodeI64, below, natural]

theorem sortedMembers_toJson (p : TransferParams) :
    Json.sortedMembers [("from_account_id", .ofInt p.fromAccountId),
        ("to_account_id", .ofInt p.toAccountId), ("amount", p.amount.toJson)] =
      [("amount", p.amount.toJson), ("from_account_id", .ofInt p.fromAccountId),
        ("to_account_id", .ofInt p.toAccountId)] := by
  simp [Json.sortedMembers, List.mergeSort, List.MergeSort.Internal.splitInTwo]

theorem fromJson_toJson {p : TransferParams} (fromFits : p.fromAccountId < (Nat.pow 2 63 : Nat))
    (toFits : p.toAccountId < (Nat.pow 2 63 : Nat)) : fromJson p.toJson = .ok p := by
  simp [fromJson, toJson, sortedMembers_toJson, readMember, Amount.fromJson_toJson,
    decodeI64_ofInt fromFits, decodeI64_ofInt toFits, bind, Except.bind, pure, Except.pure,
    List.foldlM]

end TransferParams

namespace Amount

/-- Every amount reads back from its text and decodes from its JSON form, which is that text as a
string; text that reads as an amount prints as text that reads back to it. A request whose ids
are 64-bit decodes from its JSON object. -/
theorem printed_forms_read_back :
    (∀ a : Amount, read a.render = .ok a ∧ a.toJson = .string a.render ∧
        fromJson a.toJson = .ok a) ∧
    (∀ s a, read s = .ok a → read a.render = .ok a) ∧
    (∀ p : TransferParams, p.fromAccountId < (Nat.pow 2 63 : Nat) →
        p.toAccountId < (Nat.pow 2 63 : Nat) → TransferParams.fromJson p.toJson = .ok p) :=
  ⟨fun a => ⟨read_render a, rfl, fromJson_toJson a⟩, fun _ a _ => read_render a,
    fun _ fromFits toFits => TransferParams.fromJson_toJson fromFits toFits⟩

theorem twelve_fifty_reads_back :
    ∃ a : Amount, read " 12.50 " = .ok a ∧ a.value = ⟨125, 1, false, by decide⟩ ∧
      read a.render = .ok a ∧
      TransferParams.fromJson (⟨7, 9, a⟩ : TransferParams).toJson = .ok ⟨7, 9, a⟩ := by
  have parsed : read " 12.50 " = .ok ⟨⟨125, 1, false, by decide⟩, by decide⟩ := rfl
  exact ⟨_, parsed, rfl, printed_forms_read_back.2.1 _ _ parsed,
    printed_forms_read_back.2.2 ⟨7, 9, _⟩ (by decide) (by decide)⟩

end Amount

end TransferLedger

import TransferLedger.Decimal.Read
import TransferLedger.Decimal.Render

/-! The text of a decimal reads back to it: reading a printed decimal pushes its digits one by one,
so neither the overflow checks nor the rounding fire. -/

namespace TransferLedger.Decimal

def Scan.take (st : Scan) (c : Char) : Scan :=
  match Text.digitValue? c with
  | some d => st.push d
  | none => { st with afterPoint := true }

theorem toNat_of_isDigit {c : Char} (digit : c.isDigit = true) :
    48 ≤ c.toNat ∧ c.toNat ≤ 57 :=
  Char.isDigit_iff_toNat.mp digit

theorem digitValue?_of_isDigit {c : Char} (digit : c.isDigit = true) :
    Text.digitValue? c = some (c.toNat - '0'.toNat) := by
  simp [Text.digitValue?, Char.le_def, UInt32.le_iff_toNat_le, Char.toNat_val,
    toNat_of_isDigit digit]

@[simp] theorem digitValue?_point : Text.digitValue? '.' = none := by decide

namespace Scan

theorem take_of_digitValue? {st : Scan} {c : Char} {d : Nat} (value : Text.digitValue? c = some d) :
    st.take c = st.push d := by
  simp [take, value]

theorem take_of_isDigit {st : Scan} {c : Char} (digit : c.isDigit = true) :
    st.take c = st.push (c.toNat - '0'.toNat) :=
  take_of_digitValue? (digitValue?_of_isDigit digit)

@[simp] theorem push_digits (st : Scan) (d : Nat) : (st.push d).digits = st.digits * 10 + d := rfl

@[simp] theorem take_point (st : Scan) : st.take '.' = { st with afterPoint := true } := by
  simp [take]

theorem digits_le_take (st : Scan) (c : Char) : st.digits ≤ (st.take c).digits := by
  unfold take
  split
  · simp only [push]
    omega
  · exact Nat.le_refl _

theorem places_le_take (st : Scan) (c : Char) : st.places ≤ (st.take c).places := by
  unfold take
  split
  · simp only [push]
    split <;> omega
  · exact Nat.le_refl _

theorem digits_le_foldl : ∀ (cs : List Char) (st : Scan), st.digits ≤ (cs.foldl take st).digits
  | [], _ => Nat.le_refl _
  | c :: cs, st => Nat.le_trans (digits_le_take st c) (digits_le_foldl cs (st.take c))

theorem places_le_foldl : ∀ (cs : List Char) (st : Scan), st.places ≤ (cs.foldl take st).places
  | [], _ => Nat.le_refl _
  | c :: cs, st => Nat.le_trans (places_le_take st c) (places_le_foldl cs (st.take c))

@[simp] theorem finish_afterPoint (st : Scan) (after : Bool) :
    { st with afterPoint := after }.finish = st.finish := rfl

end Scan

/-- A plain text of digits with at most one point (none if the point was already read), which
reads from `st` into a mantissa that fits and no more places than a decimal keeps. -/
structure Plain (st : Scan) (cs : List Char) : Prop where
  chars : ∀ c ∈ cs, c.isDigit = true ∨ c = '.'
  points : cs.count '.' + st.afterPoint.toNat ≤ 1
  fits : (cs.foldl Scan.take st).digits < mantissaBound
  places : (cs.foldl Scan.take st).places ≤ maxScale

namespace Plain

variable {st : Scan} {c b : Char} {more : List Char} {d : Nat}

theorem head {rest : List Char} (plain : Plain st (c :: rest)) :
    (∃ d, Text.digitValue? c = some d) ∨ c = '.' :=
  (plain.chars c List.mem_cons_self).imp (fun digit => ⟨_, digitValue?_of_isDigit digit⟩) id

theorem tail (plain : Plain st (c :: b :: more)) : Plain (st.take c) (b :: more) := by
  obtain ⟨chars, points, fits, places⟩ := plain
  refine ⟨fun x member => chars x (List.mem_cons_of_mem c member), ?_, fits, places⟩
  rcases chars c List.mem_cons_self with digit | rfl
  · have notPoint : c ≠ '.' := by
      rintro rfl
      exact absurd digit (by decide)
    rw [Scan.take_of_isDigit digit]
    simpa [List.count_cons, notPoint, Scan.push] using points
  · cases after : st.afterPoint <;> simp_all [List.count_cons]

theorem before_point {rest : List Char} (plain : Plain st ('.' :: rest)) :
    st.afterPoint = false := by
  have points := plain.points
  cases after : st.afterPoint
  · rfl
  · simp [after] at points

theorem head_fits {rest : List Char} (plain : Plain st (c :: rest)) :
    (st.take c).digits < mantissaBound :=
  Nat.lt_of_le_of_lt (Scan.digits_le_foldl rest (st.take c)) plain.fits

theorem room (plain : Plain st (b :: more)) (after : st.afterPoint = true) :
    st.places < maxScale := by
  have notPoint : b ≠ '.' := by
    rintro rfl
    exact absurd plain.before_point (by simp [after])
  have digit := (plain.chars b List.mem_cons_self).resolve_right notPoint
  have pushed : (st.take b).places = st.places + 1 := by
    simp [Scan.take_of_isDigit digit, Scan.push, after]
  have later := Scan.places_le_foldl more (st.take b)
  have bounded := plain.places
  simp only [List.foldl_cons] at bounded
  omega

theorem no_round (plain : Plain st (c :: b :: more)) (value : Text.digitValue? c = some d) :
    ¬ ((st.push d).afterPoint = true ∧ maxScale ≤ (st.push d).places) := by
  rintro ⟨after, full⟩
  have free := plain.tail.room
  rw [Scan.take_of_digitValue? value] at free
  have := free after
  omega

end Plain

theorem scanWide_plain : ∀ (rest : List Char) (st : Scan) (c : Char), Plain st (c :: rest) →
    scanWide st c rest = ((c :: rest).foldl Scan.take st).finish
  | [], st, c, plain => by
    rcases plain.head with ⟨d, value⟩ | rfl
    · have fits := plain.head_fits
      rw [Scan.take_of_digitValue? value, Scan.push_digits] at fits
      simp only [scanWide, value, List.foldl_cons, List.foldl_nil, Scan.take_of_digitValue? value]
      rw [if_neg (Nat.not_le.mpr fits)]
    · simp [scanWide, plain.before_point]
  | b :: more, st, c, plain => by
    have next := scanWide_plain more (st.take c) b plain.tail
    rcases plain.head with ⟨d, value⟩ | rfl
    · have fits := plain.head_fits
      rw [Scan.take_of_digitValue? value, Scan.push_digits] at fits
      rw [Scan.take_of_digitValue? value] at next
      simp only [scanWide, value]
      rw [if_neg (Nat.not_le.mpr fits),
        if_neg (by simpa only [Bool.and_eq_true, decide_eq_true_eq] using plain.no_round value),
        next]
      simp only [List.foldl_cons, Scan.take_of_digitValue? value]
    · simp only [Scan.take_point] at next
      simp [scanWide, plain.before_point, next]

theorem scanNarrow_plain (long : Bool) : ∀ (rest : List Char) (st : Scan) (c : Char),
    Plain st (c :: rest) → scanNarrow long st c rest = ((c :: rest).foldl Scan.take st).finish
  | [], st, c, plain => by
    rcases plain.head with ⟨d, value⟩ | rfl
    · simp [scanNarrow, value, Scan.take_of_digitValue? value]
    · simp [scanNarrow, plain.before_point]
  | b :: more, st, c, plain => by
    have next := scanNarrow_plain long more (st.take c) b plain.tail
    rcases plain.head with ⟨d, value⟩ | rfl
    · have taken : st.take c = st.push d := Scan.take_of_digitValue? value
      rw [taken] at next
      have room : ¬ (((st.push d).afterPoint = true ∧ long = true) ∧
          maxScale ≤ (st.push d).places) :=
        fun round => plain.no_round value ⟨round.1.1, round.2⟩
      simp only [scanNarrow, value]
      rw [if_neg (by simpa only [Bool.and_eq_true, decide_eq_true_eq] using room)]
      split
      · rw [scanWide_plain more _ b (taken ▸ plain.tail)]
        simp only [List.foldl_cons, taken]
      · rw [next]
        simp only [List.foldl_cons, taken]
    · simp only [Scan.take_point] at next
      simp [scanNarrow, plain.before_point, next]

theorem foldl_take_digits : ∀ (ds : List Char) (st : Scan), (∀ c ∈ ds, c.isDigit = true) →
    ds.foldl Scan.take st =
      { st with
        digits := Nat.ofDigitChars 10 ds st.digits
        places := st.places + (if st.afterPoint then ds.length else 0)
        sawDigit := st.sawDigit || !ds.isEmpty }
  | [], st, _ => by
    cases st
    simp
  | c :: ds, st, digits => by
    rw [List.foldl_cons, Scan.take_of_isDigit (digits c List.mem_cons_self),
      foldl_take_digits ds _ fun x member => digits x (List.mem_cons_of_mem c member)]
    obtain ⟨value, places, after, negative, saw⟩ := st
    cases after with
    | false => simp [Scan.push, Nat.ofDigitChars_cons, Nat.mul_comm]
    | true =>
      simp [Scan.push, Nat.ofDigitChars_cons, Nat.mul_comm]
      omega

theorem isDigit_of_mem_padDigits {width m : Nat} {c : Char}
    (member : c ∈ padDigits width (mantissaDigits m)) : c.isDigit = true := by
  simp only [padDigits, List.mem_append, List.mem_replicate] at member
  rcases member with ⟨-, rfl⟩ | member
  · decide
  · unfold mantissaDigits at member
    split at member
    · cases member
    · exact Nat.isDigit_of_mem_toDigits (by decide) (by decide) member

theorem ofDigitChars_padDigits (width m : Nat) :
    Nat.ofDigitChars 10 (padDigits width (mantissaDigits m)) 0 = m := by
  rw [padDigits, Nat.ofDigitChars_append, Nat.ofDigitChars_replicate_zero, Nat.mul_zero]
  unfold mantissaDigits
  split
  · rename_i zeroed
    simp [zeroed]
  · exact Nat.ofDigitChars_ten_toDigits

/-- The text of a decimal without its sign: a nonempty whole part, then the point and exactly
`scale` fraction digits unless the scale is zero; the digits read back to the mantissa. -/
theorem magnitudeText_spec (d : Decimal) : ∃ whole fraction : List Char,
    (magnitudeText d).toList = whole ++ (if d.scale = 0 then [] else '.' :: fraction) ∧
      whole ≠ [] ∧ (∀ c ∈ whole ++ fraction, c.isDigit = true) ∧
      Nat.ofDigitChars 10 (whole ++ fraction) 0 = d.mantissa ∧ fraction.length = d.scale := by
  have padded : d.scale ≤ (padDigits d.scale (mantissaDigits d.mantissa)).length := by
    simp [padDigits]
    omega
  generalize digits : padDigits d.scale (mantissaDigits d.mantissa) = ds at padded
  have value := ofDigitChars_padDigits d.scale d.mantissa
  have isDigit := fun c => @isDigit_of_mem_padDigits d.scale d.mantissa c
  rw [digits] at value isDigit
  by_cases bare : ds.length - d.scale = 0
  · refine ⟨['0'], ds, ?_, by simp, ?_, ?_, by omega⟩
    · simp only [magnitudeText, digits, bare, List.take_zero, List.isEmpty_nil, if_true,
        List.drop_zero]
      split <;> simp [String.toList_append, String.toList_ofList]
    · intro c member
      rcases List.mem_append.mp member with zero | member
      · rw [List.mem_singleton.mp zero]
        decide
      · exact isDigit c member
    · rw [Nat.ofDigitChars_append, Nat.ofDigitChars_cons]
      simpa using value
  · have filled : ds.take (ds.length - d.scale) ≠ [] := by
      rw [Ne, List.take_eq_nil_iff]
      rintro (zeroed | rfl)
      · exact bare zeroed
      · simp at bare
    refine ⟨ds.take (ds.length - d.scale), ds.drop (ds.length - d.scale), ?_, filled,
      ?_, by rw [List.take_append_drop]; exact value, by simp; omega⟩
    · simp only [magnitudeText, digits, List.isEmpty_iff, filled, if_false]
      split <;> simp [String.toList_append, String.toList_ofList]
    · intro c member
      rw [List.take_append_drop] at member
      exact isDigit c member

theorem mem_magnitudeText {d : Decimal} {c : Char} (member : c ∈ (magnitudeText d).toList) :
    c.isDigit = true ∨ c = '.' := by
  obtain ⟨whole, fraction, text, -, isDigit, -, -⟩ := magnitudeText_spec d
  rw [text] at member
  rcases List.mem_append.mp member with member | member
  · exact .inl (isDigit c (List.mem_append_left fraction member))
  · split at member
    · cases member
    · rcases List.mem_cons.mp member with rfl | member
      · exact .inr rfl
      · exact .inl (isDigit c (List.mem_append_right whole member))

theorem magnitudeText_plain (d : Decimal) (negative : Bool) (places : d.scale ≤ maxScale) :
    ∃ c rest, (magnitudeText d).toList = c :: rest ∧ c.isDigit = true ∧
      Plain { negative } (c :: rest) ∧
      ((c :: rest).foldl Scan.take { negative }).finish =
        .ok ⟨d.mantissa, d.scale, negative && d.mantissa != 0, d.fits⟩ := by
  obtain ⟨whole, fraction, text, filled, isDigit, value, length⟩ := magnitudeText_spec d
  obtain ⟨c, start, rfl⟩ := List.exists_cons_of_ne_nil filled
  have wholeDigits : ∀ x ∈ c :: start, x.isDigit = true :=
    fun x member => isDigit x (List.mem_append_left fraction member)
  have fractionDigits : ∀ x ∈ fraction, x.isDigit = true :=
    fun x member => isDigit x (List.mem_append_right _ member)
  have read : ((c :: start) ++ (if d.scale = 0 then [] else '.' :: fraction)).foldl Scan.take
      { negative } =
      { digits := d.mantissa, places := d.scale, afterPoint := d.scale != 0, negative,
        sawDigit := true } := by
    rw [List.foldl_append, foldl_take_digits _ _ wholeDigits]
    by_cases bare : d.scale = 0
    · rw [bare, List.length_eq_zero_iff] at length
      subst length
      simp_all
    · rw [if_neg bare, List.foldl_cons, Scan.take_point, foldl_take_digits _ _ fractionDigits]
      simp only [List.cons_append] at value
      simp [← Nat.ofDigitChars_append, value, length, bare]
  refine ⟨c, start ++ (if d.scale = 0 then [] else '.' :: fraction), text,
    wholeDigits c List.mem_cons_self, ⟨?_, ?_, ?_, ?_⟩, ?_⟩
  all_goals rw [← List.cons_append]
  · intro x member
    rw [← text] at member
    exact mem_magnitudeText member
  · have noPoint : ∀ xs : List Char, (∀ x ∈ xs, x.isDigit = true) → xs.count '.' = 0 :=
      fun xs digits => List.count_eq_zero.mpr fun member => absurd (digits '.' member) (by decide)
    rw [List.count_append, noPoint _ wholeDigits]
    split <;> simp [noPoint _ fractionDigits]
  · rw [read]
    exact d.fits
  · rw [read]
    exact places
  · rw [read]
    simp [Scan.finish, ofParts_of_lt d.fits]

theorem mem_render {d : Decimal} {c : Char} (member : c ∈ d.render.toList) :
    c.isDigit = true ∨ c = '.' ∨ c = '-' := by
  rw [render, String.toList_append] at member
  rcases List.mem_append.mp member with sign | member
  · split at sign <;> simp_all
  · exact (mem_magnitudeText member).imp_right .inl

theorem splitExponent_eq_none :
    ∀ cs : List Char, 'e' ∉ cs → 'E' ∉ cs → splitExponent cs = none
  | [], _, _ => rfl
  | c :: cs, lower, upper => by
    have rest := splitExponent_eq_none cs (fun member => lower (List.mem_cons_of_mem c member))
      (fun member => upper (List.mem_cons_of_mem c member))
    have notLower : c ≠ 'e' := fun same => lower (same ▸ List.mem_cons_self)
    have notUpper : c ≠ 'E' := fun same => upper (same ▸ List.mem_cons_self)
    simp [splitExponent, notLower, notUpper, rest]

/-- Every decimal with at most twenty-eight places reads back from its text, unless it is a zero
with a negative sign (which reads back unsigned). -/
theorem read_render {d : Decimal} (places : d.scale ≤ maxScale)
    (signed : d.negative = true → d.mantissa ≠ 0) : read d.render = .ok d := by
  obtain ⟨c, rest, text, digit, plain, finished⟩ := magnitudeText_plain d d.negative places
  have rendered : d.render.toList = (if d.negative then ['-'] else []) ++ c :: rest := by
    rw [← text, render, String.toList_append]
    split <;> rfl
  have noExponent : ∀ x, x = 'e' ∨ x = 'E' → x ∉ d.render.toList := by
    rintro x letter member
    rcases letter with rfl | rfl <;> rcases mem_render member with digit | same | same <;>
      exact absurd (by assumption) (by decide)
  have kept : (⟨d.mantissa, d.scale, d.negative && d.mantissa != 0, d.fits⟩ : Decimal) = d := by
    obtain ⟨m, s, negative⟩ := d
    cases negative
    · rfl
    · simp [signed rfl]
  have scanned := scanNarrow_plain (longText ≤ d.render.utf8ByteSize) rest _ c plain
  rw [finished, kept] at scanned
  unfold read
  rw [splitExponent_eq_none _ (noExponent 'e' (.inl rfl)) (noExponent 'E' (.inr rfl))]
  unfold readPlain
  dsimp only
  rw [rendered]
  cases sign : d.negative
  · rw [sign] at scanned
    simp only [Bool.false_eq_true, if_false, List.nil_append]
    split
    · rename_i same
      cases same
    · rename_i same
      obtain ⟨rfl, -⟩ := List.cons.inj same
      exact absurd digit (by decide)
    · rename_i same
      obtain ⟨rfl, -⟩ := List.cons.inj same
      exact absurd digit (by decide)
    · rename_i same
      obtain ⟨rfl, rfl⟩ := List.cons.inj same
      exact scanned
  · rw [sign] at scanned
    simp only [if_true, List.singleton_append]
    exact scanned

example : render ⟨1000000, 4, false, by decide⟩ = "100.0000" := by decide
example : read "100.0000" = .ok ⟨1000000, 4, false, by decide⟩ := rfl
example : render ⟨0, 0, true, by decide⟩ = "-0" := by decide
example : read "-0" = .ok zero := rfl

end TransferLedger.Decimal

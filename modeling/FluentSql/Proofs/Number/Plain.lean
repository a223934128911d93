import FluentSql.Proofs.Number.Numeral

/-!
# Integers that are written plainly

Every integer has one plain numeral: its digits, no zero before others, and a minus sign if it is
negative. A numeral that is read as an integer may have a plus sign, or more zeros than it needs. It
is the text of the integer just when it is plain.

Results:
1. `isPlainNatural_iff`, `isPlainInteger_iff`: what is plain is the text of a number.
2. `int64?_intText`: the text of an integer is read as the integer.
3. `intText_eq_iff`: when the text of an integer is the text that it was read from.
-/

namespace FluentSql

/-! ## Naturals -/

/-- Digits, without a zero before others. -/
def IsPlainNatural (text : List Char) : Prop :=
  text = ['0'] ∨ ∃ c rest, text = c :: rest ∧ c ≠ '0' ∧ ∀ d ∈ text, d.isDigit = true

/-- The value of a digit has this digit alone. -/
theorem digitsOf_digit {c : Char} (digit : c.isDigit = true) :
    c.toNat - '0'.toNat < 10 ∧ digitsOf (c.toNat - '0'.toNat) = [c] := by
  have code : c = Char.ofNat c.toNat := (Char.ofNat_toNat c).symm
  have range : 48 ≤ c.toNat ∧ c.toNat ≤ 57 := by
    simpa [Char.isDigit, UInt32.le_iff_toNat_le] using digit
  have all : ∀ value, value < 10 → digitsOf value = [Char.ofNat (48 + value)] := by decide
  have small : c.toNat - 48 < 10 := by omega
  refine ⟨small, ?_⟩
  show digitsOf (c.toNat - 48) = [c]
  rw [all _ small, show 48 + (c.toNat - 48) = c.toNat by omega, ← code]

/-- Digits after those of a positive number are the last digits of a greater one. -/
theorem digitsOf_append {text : List Char} (digits : ∀ c ∈ text, c.isDigit = true) {value : Nat}
    (positive : 0 < value) : digitsOf value ++ text = digitsOf (Nat.ofDigitChars 10 text value) := by
  induction text generalizing value with
  | nil => rw [List.append_nil, Nat.ofDigitChars_nil]
  | cons c rest ih =>
    obtain ⟨small, single⟩ := digitsOf_digit (digits c (by simp))
    have one : digitsOf value ++ [c] = digitsOf (10 * value + (c.toNat - '0'.toNat)) := by
      rw [← single]
      exact Nat.toDigits_append_toDigits (by decide) positive small
    rw [Nat.ofDigitChars_cons, ← ih (fun d present => digits d (List.mem_cons_of_mem c present))
      (by omega), ← one, List.append_assoc]
    rfl

/-- The digits of a positive number do not begin with a zero. -/
theorem digitsOf_begins {n : Nat} (positive : 0 < n) : ∃ c rest, digitsOf n = c :: rest ∧ c ≠ '0' := by
  induction n using Nat.strongRecOn with
  | ind n ih =>
    rcases Nat.lt_or_ge n 10 with small | large
    · have all : ∀ value, value < 10 → 0 < value →
          digitsOf value = [Char.ofNat (48 + value)] ∧ Char.ofNat (48 + value) ≠ '0' := by decide
      obtain ⟨single, other⟩ := all n small positive
      exact ⟨_, [], single, other⟩
    · obtain ⟨c, rest, begins, other⟩ := ih (n / 10) (by omega) (by omega)
      refine ⟨c, rest ++ [(n % 10).digitChar], ?_, other⟩
      show Nat.toDigits 10 n = _
      rw [Nat.toDigits_of_base_le (by decide) large, show Nat.toDigits 10 (n / 10) = _ from begins]
      rfl

/-- What is plain is the digits of a number. -/
theorem isPlainNatural_iff {text : List Char} : IsPlainNatural text ↔ ∃ n, digitsOf n = text := by
  constructor
  · rintro (rfl | ⟨c, rest, rfl, other, digits⟩)
    · exact ⟨0, rfl⟩
    · obtain ⟨-, single⟩ := digitsOf_digit (digits c (by simp))
      have positive : 0 < c.toNat - '0'.toNat := by
        rcases Nat.eq_zero_or_pos (c.toNat - '0'.toNat) with zero | positive
        · rw [zero] at single
          cases single
          exact absurd rfl other
        · exact positive
      have tail : ∀ d ∈ rest, d.isDigit = true := fun d present => digits d (by simp [present])
      refine ⟨Nat.ofDigitChars 10 rest (c.toNat - '0'.toNat), ?_⟩
      rw [← digitsOf_append tail positive, single]
      rfl
  · rintro ⟨n, rfl⟩
    rcases Nat.eq_zero_or_pos n with rfl | positive
    · exact .inl rfl
    · obtain ⟨c, rest, begins, other⟩ := digitsOf_begins positive
      exact .inr ⟨c, rest, begins, other, fun d present => isDigit_of_mem_digitsOf present⟩

/-! ## Integers -/

/-- Digits without a zero before others, and a minus sign before them unless they are zero. -/
def IsPlainInteger (text : List Char) : Prop :=
  IsPlainNatural text ∨ ∃ digits, text = '-' :: digits ∧ IsPlainNatural digits ∧ digits ≠ ['0']

theorem toList_intText (n : Int) :
    (intText n).toList = if n < 0 then '-' :: digitsOf n.natAbs else digitsOf n.natAbs := by
  unfold intText natText
  split <;> rw [String.toList_ofList]

theorem digitsOf_eq_zero {n : Nat} (zero : digitsOf n = ['0']) : n = 0 := by
  have read := natural?_digitsOf n
  rw [zero] at read
  exact (Option.some.inj read).symm

/-- What is plain is the text of an integer. -/
theorem isPlainInteger_iff {text : List Char} :
    IsPlainInteger text ↔ ∃ n, (intText n).toList = text := by
  constructor
  · rintro (plain | ⟨digits, rfl, plain, nonzero⟩)
    · obtain ⟨n, rfl⟩ := isPlainNatural_iff.mp plain
      refine ⟨n, ?_⟩
      rw [toList_intText, if_neg (by omega)]
      rfl
    · obtain ⟨n, rfl⟩ := isPlainNatural_iff.mp plain
      have positive : n ≠ 0 := by
        rintro rfl
        exact nonzero rfl
      refine ⟨-n, ?_⟩
      rw [toList_intText, if_pos (by omega), Int.natAbs_neg]
      rfl
  · rintro ⟨n, rfl⟩
    rw [toList_intText]
    split
    · rename_i negative
      refine .inr ⟨_, rfl, isPlainNatural_iff.mpr ⟨_, rfl⟩, ?_⟩
      intro zero
      have := digitsOf_eq_zero zero
      omega
    · exact .inl (isPlainNatural_iff.mpr ⟨_, rfl⟩)

/-- The text of an integer is a numeral of it. -/
theorem isNumeral_intText (n : Int) : IsNumeral (intText n).toList n := by
  have all : ∀ c ∈ digitsOf n.natAbs, c.isDigit = true := fun c present =>
    isDigit_of_mem_digitsOf present
  have worth : Nat.ofDigitChars 10 (digitsOf n.natAbs) 0 = n.natAbs := Nat.ofDigitChars_ten_toDigits
  rw [toList_intText]
  split
  · have numeral := IsNumeral.negative (digitsOf_ne_nil _) all
    rwa [worth, show -(n.natAbs : Int) = n by omega] at numeral
  · have numeral := IsNumeral.unsigned (digitsOf_ne_nil _) all
    rwa [worth, show (n.natAbs : Int) = n by omega] at numeral

/-- The text of an integer is read as the integer. -/
theorem int64?_intText (n : Int) :
    int64? (intText n).toList = if isInt64 n then some n else none := (isNumeral_intText n).int64?

theorem isInt64_of_int64? {text : List Char} {n : Int} (read : int64? text = some n) :
    isInt64 n = true := (int64?_eq_some_iff.mp read).2

/-- What is read is read again from its own text. -/
theorem int64?_intText_of_int64? {text : List Char} {n : Int} (read : int64? text = some n) :
    int64? (intText n).toList = some n := by
  rw [int64?_intText, if_pos (isInt64_of_int64? read)]

/-- The main result: an integer that was read from a text has this text if it is plain, and another
if it is not. -/
theorem intText_eq_iff {text : List Char} {n : Int} (read : int64? text = some n) :
    (intText n).toList = text ↔ IsPlainInteger text := by
  constructor
  · rintro rfl
    exact isPlainInteger_iff.mpr ⟨n, rfl⟩
  · intro plain
    obtain ⟨m, rfl⟩ := isPlainInteger_iff.mp plain
    rw [int64?_intText] at read
    split at read
    · cases read
      rfl
    · cases read

end FluentSql

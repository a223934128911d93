import FluentSql.Number.Layout
import FluentSql.Number.Numeral

/-!
# Numerals that are written and read

A numeral has digits only, and reading the decimal digits of a number gives the number. A signed
numeral may have a sign before its digits (`int64?_eq_some_iff`).
-/

namespace FluentSql

theorem isDigit_of_digitValue? {c : Char} {digit : Nat} (found : digitValue? c = some digit) :
    c.isDigit = true ∧ digit = c.toNat - '0'.toNat := by
  simp only [digitValue?] at found
  split at found
  · rename_i bounds
    cases found
    exact ⟨by simpa [Char.isDigit, Char.le_def] using bounds, rfl⟩
  · cases found

theorem digitValue?_of_isDigit {c : Char} (digit : c.isDigit = true) :
    digitValue? c = some (c.toNat - '0'.toNat) := by
  have bounds : '0' ≤ c ∧ c ≤ '9' := by simpa [Char.isDigit, Char.le_def] using digit
  simp only [digitValue?, bounds, and_self, if_true]

theorem isDigit_of_foldlM {text : List Char} {start value : Nat}
    (read : text.foldlM (fun value c => (digitValue? c).map (10 * value + ·)) start = some value) :
    ∀ c ∈ text, c.isDigit = true := by
  induction text generalizing start with
  | nil => simp
  | cons d rest ih =>
    simp only [List.foldlM_cons, Option.bind_eq_bind, Option.bind_eq_some_iff,
      Option.map_eq_some_iff] at read
    obtain ⟨next, ⟨digit, found, -⟩, later⟩ := read
    intro c present
    rcases List.mem_cons.mp present with rfl | present
    · exact (isDigit_of_digitValue? found).1
    · exact ih later c present

/-- A numeral has digits only. -/
theorem isDigit_of_natural? {text : List Char} {value : Nat} (read : natural? text = some value) :
    ∀ c ∈ text, c.isDigit = true := by
  simp only [natural?] at read
  split at read
  · cases read
  · exact isDigit_of_foldlM read

theorem foldlM_of_isDigit {text : List Char} (digits : ∀ c ∈ text, c.isDigit = true)
    (start : Nat) :
    text.foldlM (fun value c => (digitValue? c).map (10 * value + ·)) start =
      some (Nat.ofDigitChars 10 text start) := by
  induction text generalizing start with
  | nil => rfl
  | cons c rest ih =>
    have head := digitValue?_of_isDigit (digits c (by simp))
    have tail := fun d present => digits d (List.mem_cons_of_mem c present)
    simp only [List.foldlM_cons, head, Option.map_some, Option.bind_eq_bind, Option.bind_some]
    rw [ih tail, Nat.ofDigitChars_cons]

/-- A natural number is read from digits, of which there is one at least. -/
theorem natural?_eq_some_iff {text : List Char} {value : Nat} :
    natural? text = some value ↔
      text ≠ [] ∧ (∀ c ∈ text, c.isDigit = true) ∧ Nat.ofDigitChars 10 text 0 = value := by
  constructor
  · intro read
    have digits := isDigit_of_natural? read
    rw [natural?] at read
    split at read
    · cases read
    · rename_i nonempty
      rw [foldlM_of_isDigit digits 0] at read
      exact ⟨by simpa using nonempty, digits, Option.some.inj read⟩
  · rintro ⟨nonempty, digits, rfl⟩
    rw [natural?, if_neg (by simpa using nonempty), foldlM_of_isDigit digits 0]

theorem isDigit_of_mem_digitsOf {n : Nat} {c : Char} (present : c ∈ digitsOf n) :
    c.isDigit = true :=
  Nat.isDigit_of_mem_toDigits (by decide) (by decide) present

theorem digitsOf_ne_nil (n : Nat) : digitsOf n ≠ [] := Nat.toDigits_ne_nil

/-- The digits of a number read as the number. -/
theorem natural?_digitsOf (n : Nat) : natural? (digitsOf n) = some n := by
  refine natural?_eq_some_iff.mpr ⟨digitsOf_ne_nil n, fun c present => ?_, ?_⟩
  · exact isDigit_of_mem_digitsOf present
  · exact Nat.ofDigitChars_ten_toDigits

/-! ## Signed numerals -/

/-- A numeral of an integer: digits, of which there is one at least, and before them a minus sign, a
plus sign or nothing. -/
inductive IsNumeral : List Char → Int → Prop
  | unsigned {digits : List Char} (nonempty : digits ≠ []) (all : ∀ c ∈ digits, c.isDigit = true) :
      IsNumeral digits (Nat.ofDigitChars 10 digits 0)
  | positive {digits : List Char} (nonempty : digits ≠ []) (all : ∀ c ∈ digits, c.isDigit = true) :
      IsNumeral ('+' :: digits) (Nat.ofDigitChars 10 digits 0)
  | negative {digits : List Char} (nonempty : digits ≠ []) (all : ∀ c ∈ digits, c.isDigit = true) :
      IsNumeral ('-' :: digits) (-(Nat.ofDigitChars 10 digits 0 : Int))

theorem isInt64_iff {n : Int} :
    isInt64 n = true ↔ -9223372036854775808 ≤ n ∧ n ≤ 9223372036854775807 := by
  have bound : Int.pow 2 63 = 9223372036854775808 := by decide
  rw [isInt64, bound, Bool.and_eq_true, decide_eq_true_eq, decide_eq_true_eq]
  omega

/-- Digits have no sign before them. -/
theorem takeSign_of_isDigit {digits : List Char} (all : ∀ c ∈ digits, c.isDigit = true) :
    takeSign digits = (false, digits) := by
  have solid : ∀ c ∈ digits, c ≠ '-' ∧ c ≠ '+' := by
    intro c present
    have digit := all c present
    constructor <;> rintro rfl <;> exact absurd digit (by decide)
  unfold takeSign
  split
  · exact absurd rfl (solid '-' List.mem_cons_self).1
  · exact absurd rfl (solid '+' List.mem_cons_self).2
  · rfl

theorem int64?_of_parts {text digits : List Char} {negative : Bool} {magnitude : Nat}
    (signed : takeSign text = (negative, digits)) (read : natural? digits = some magnitude)
    {value : Int} (worth : value = if negative then -(magnitude : Int) else magnitude) :
    int64? text = if isInt64 value then some value else none := by
  subst worth
  unfold int64?
  rw [signed]
  show (natural? digits).bind _ = _
  rw [read]
  rfl

/-- A numeral is read as its integer, unless that is out of range. -/
theorem IsNumeral.int64? {text : List Char} {n : Int} (numeral : IsNumeral text n) :
    FluentSql.int64? text = if isInt64 n then some n else none := by
  cases numeral with
  | @unsigned digits nonempty all =>
    have read := natural?_eq_some_iff.mpr ⟨nonempty, all, rfl⟩
    exact int64?_of_parts (takeSign_of_isDigit all) read rfl
  | @positive digits nonempty all =>
    have signed : takeSign ('+' :: digits) = (false, digits) := rfl
    exact int64?_of_parts signed (natural?_eq_some_iff.mpr ⟨nonempty, all, rfl⟩) rfl
  | @negative digits nonempty all =>
    have signed : takeSign ('-' :: digits) = (true, digits) := rfl
    exact int64?_of_parts signed (natural?_eq_some_iff.mpr ⟨nonempty, all, rfl⟩) rfl

/-- A text is read as a signed 64-bit integer just when it is a numeral of it, in the range. -/
theorem int64?_eq_some_iff {text : List Char} {n : Int} :
    int64? text = some n ↔ IsNumeral text n ∧ isInt64 n = true := by
  constructor
  · intro read
    -- What is read has a sign and digits, and so is a numeral of some integer.
    have numeral : ∃ m, IsNumeral text m := by
      cases signed : takeSign text with
      | mk negative digits =>
        rw [FluentSql.int64?, signed] at read
        obtain ⟨magnitude, found, -⟩ := Option.bind_eq_some_iff.mp read
        obtain ⟨nonempty, all, -⟩ := natural?_eq_some_iff.mp found
        unfold takeSign at signed
        split at signed <;> cases signed
        · exact ⟨_, .negative nonempty all⟩
        · exact ⟨_, .positive nonempty all⟩
        · exact ⟨_, .unsigned nonempty all⟩
    obtain ⟨m, numeral⟩ := numeral
    rw [numeral.int64?] at read
    split at read
    · rename_i within
      cases read
      exact ⟨numeral, within⟩
    · cases read
  · rintro ⟨numeral, within⟩
    rw [numeral.int64?, if_pos within]

end FluentSql

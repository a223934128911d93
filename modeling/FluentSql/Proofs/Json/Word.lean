import FluentSql.Json.Text
import FluentSql.Json.Token
import FluentSql.Proofs.Number.Numeral

/-!
# Values that are words

Nulls, truth values and numbers are written without quotes, in literals as in arrays. What is written
for them are words: they have no blank, comma, quote or bracket in them, and only a null is written as
`NULL`.

Results:
1. `Number.isNumberChar_of_mem_text`, `Number.text_ne_nil`: the characters of numbers.
2. `Json.isWordChar_of_word?`, `Json.word_ne_nil`, `Json.isNullWord_of_word?`: the words of values.
-/

namespace FluentSql

/-! ## Numbers -/

/-- The characters that numbers are written with. -/
def isNumberChar (c : Char) : Bool := c.isDigit || c == '-' || c == '+' || c == '.' || c == 'e'

theorem isNumberChar_of_isDigit {c : Char} (digit : c.isDigit = true) : isNumberChar c = true := by
  simp [isNumberChar, digit]

theorem isNumberChar_of_mem_digitsOf {n : Nat} {c : Char} (present : c ∈ digitsOf n) :
    isNumberChar c = true := isNumberChar_of_isDigit (isDigit_of_mem_digitsOf present)

namespace Decimal

theorem isNumberChar_of_mem_positional (decimal : Decimal) :
    ∀ c ∈ decimal.positional, isNumberChar c = true := by
  have digits : ∀ c ∈ digitsOf decimal.digits, isNumberChar c = true := fun _ =>
    isNumberChar_of_mem_digitsOf
  have zeros : ∀ n, ∀ c ∈ List.replicate n '0', isNumberChar c = true := by
    intro n c present
    rw [List.eq_of_mem_replicate present]
    decide
  intro c present
  rw [positional] at present
  split at present
  · rcases List.mem_cons.mp present with rfl | present
    · decide
    · rcases List.mem_cons.mp present with rfl | present
      · decide
      · rcases List.mem_append.mp present with zero | digit
        · exact zeros _ c zero
        · exact digits c digit
  · split at present
    · rcases List.mem_append.mp present with present | ending
      · rcases List.mem_append.mp present with digit | zero
        · exact digits c digit
        · exact zeros _ c zero
      · simp only [List.mem_cons, List.not_mem_nil, or_false] at ending
        rcases ending with rfl | rfl <;> decide
    · rcases List.mem_append.mp present with whole | present
      · exact digits c (List.mem_of_mem_take whole)
      · rcases List.mem_cons.mp present with rfl | fraction
        · decide
        · exact digits c (List.mem_of_mem_drop fraction)

theorem isNumberChar_of_mem_scientific (decimal : Decimal) :
    ∀ c ∈ decimal.scientific, isNumberChar c = true := by
  have digits : ∀ c ∈ digitsOf decimal.digits, isNumberChar c = true := fun _ =>
    isNumberChar_of_mem_digitsOf
  intro c present
  rw [scientific] at present
  rcases List.mem_append.mp present with present | present
  · rcases List.mem_append.mp present with first | fraction
    · exact digits c (List.mem_of_mem_take first)
    · split at fraction
      · cases fraction
      · rcases List.mem_cons.mp fraction with rfl | later
        · decide
        · exact digits c (List.mem_of_mem_drop later)
  · rcases List.mem_cons.mp present with rfl | present
    · decide
    · rcases List.mem_cons.mp present with rfl | exponent
      · split <;> decide
      · exact isNumberChar_of_mem_digitsOf exponent

theorem isNumberChar_of_mem_layout (decimal : Decimal) :
    ∀ c ∈ decimal.layout, isNumberChar c = true := by
  rw [layout]
  split
  · exact decimal.isNumberChar_of_mem_positional
  · exact decimal.isNumberChar_of_mem_scientific

theorem layout_ne_nil (decimal : Decimal) : decimal.layout ≠ [] := by
  rw [layout, positional, scientific]
  split
  · split
    · nofun
    · split <;> simp
  · simp

end Decimal

namespace Number

theorem isNumberChar_of_mem_text (number : Number) :
    ∀ c ∈ number.text.toList, isNumberChar c = true := by
  cases number with
  | int value =>
    intro c present
    rw [text, intText, natText] at present
    split at present
    · rw [String.toList_ofList] at present
      rcases List.mem_cons.mp present with rfl | digit
      · decide
      · exact isNumberChar_of_mem_digitsOf digit
    · rw [String.toList_ofList] at present
      exact isNumberChar_of_mem_digitsOf present
  | float value =>
    intro c present
    rw [text, Binary64.text, String.toList_ofList] at present
    rcases List.mem_append.mp present with sign | magnitude
    · split at sign
      · rw [List.mem_singleton.mp sign]
        decide
      · cases sign
    · split at magnitude
      · simp only [List.mem_cons, List.not_mem_nil, or_false] at magnitude
        rcases magnitude with rfl | rfl | rfl <;> decide
      · exact Decimal.isNumberChar_of_mem_layout _ c magnitude

theorem text_ne_nil (number : Number) : number.text.toList ≠ [] := by
  cases number with
  | int value =>
    rw [text, intText, natText]
    split
    · rw [String.toList_ofList]
      nofun
    · rw [String.toList_ofList]
      exact digitsOf_ne_nil _
  | float value =>
    rw [text, Binary64.text, String.toList_ofList]
    refine List.append_ne_nil_of_right_ne_nil _ ?_
    split
    · nofun
    · exact Decimal.layout_ne_nil _

end Number

/-! ## Words -/

/-- The word for nulls, in upper or lower case. -/
def isNullWord (word : List Char) : Bool := word.map Char.toLower == "null".toList

theorem toLower_of_isDigit {c : Char} (digit : c.isDigit = true) : c.toLower = c := by
  simp only [Char.isDigit, ge_iff_le, Bool.and_eq_true, decide_eq_true_eq] at digit
  have lower : ¬(c.val ≥ 'A'.val ∧ c.val ≤ 'Z'.val) := by grind
  exact dif_neg lower

/-- No number has the first letter of the word for nulls in it. -/
theorem toLower_of_isNumberChar {c : Char} (written : isNumberChar c = true) : c.toLower ≠ 'n' := by
  simp only [isNumberChar, Bool.or_eq_true, beq_iff_eq] at written
  rcases written with (((digit | rfl) | rfl) | rfl) | rfl
  · rw [toLower_of_isDigit digit]
    rintro rfl
    exact absurd digit (by decide)
  all_goals decide

namespace Json

/-- The word of a value that is written without quotes. -/
def word? : Json → Option String
  | .null => some "NULL"
  | .bool value => some (if value then "true" else "false")
  | .number value => some value.text
  | _ => none

variable {value : Json} {word : String}

theorem isWordChar_of_word? (found : value.word? = some word) :
    ∀ c ∈ word.toList, JsonToken.isWordChar c = true := by
  cases value with
  | null =>
    cases found
    exact List.all_eq_true.mp (by decide)
  | bool truth =>
    cases found
    cases truth <;> exact List.all_eq_true.mp (by decide)
  | number number =>
    cases found
    intro c present
    have written := number.isNumberChar_of_mem_text c present
    simp only [isNumberChar, Bool.or_eq_true, beq_iff_eq] at written
    rcases written with (((digit | rfl) | rfl) | rfl) | rfl
    · simp [JsonToken.isWordChar, Char.isAlphanum, digit]
    all_goals decide
  | _ => cases found

theorem word_ne_nil (found : value.word? = some word) : word.toList ≠ [] := by
  cases value with
  | null =>
    cases found
    decide
  | bool truth =>
    cases found
    cases truth <;> decide
  | number number =>
    cases found
    exact number.text_ne_nil
  | _ => cases found

/-- Only a null is written with the word for nulls. -/
theorem isNullWord_of_word? (found : value.word? = some word) :
    isNullWord word.toList = value.isNull := by
  cases value with
  | null =>
    cases found
    decide
  | bool truth =>
    cases found
    cases truth <;> decide
  | number number =>
    cases found
    refine Bool.eq_false_iff.mpr fun null => ?_
    have letter : 'n' ∈ number.text.toList.map Char.toLower := by
      rw [eq_of_beq null]
      decide
    obtain ⟨c, present, lower⟩ := List.mem_map.mp letter
    exact toLower_of_isNumberChar (number.isNumberChar_of_mem_text c present) lower
  | _ => cases found

end Json

end FluentSql

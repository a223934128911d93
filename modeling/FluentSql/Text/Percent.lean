import FluentSql.Number.Numeral

/-!
# Percent-encoded text

Text in which any byte may be written as `%` and two hexadecimal digits. A `%` that no two digits
follow stands for itself.
-/

namespace FluentSql

namespace Percent

/-- The bytes of a percent-encoded text. -/
def bytes : List Char → List UInt8
  | [] => []
  | '%' :: high :: low :: rest =>
    match hexDigitValue? high, hexDigitValue? low with
    | some high, some low => UInt8.ofNat (16 * high + low) :: bytes rest
    | _, _ => String.utf8EncodeChar '%' ++ bytes (high :: low :: rest)
  | c :: rest => String.utf8EncodeChar c ++ bytes rest

/-- The text that a percent-encoded text stands for. There is none if the bytes are not UTF-8. -/
def decode? (text : List Char) : Option (List Char) :=
  (String.fromUTF8? ⟨(bytes text).toArray⟩).map String.toList

end Percent

end FluentSql

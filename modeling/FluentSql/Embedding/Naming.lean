/-!
# Singular and plural

The singular and plural forms of table names, by the endings of English nouns. The functions on
lists of characters take names back to front, so that an ending stands first.
-/

namespace FluentSql

namespace Naming

/-- The singular form of a name that is written back to front. -/
def singularReversed : List Char → List Char
  | 's' :: 'e' :: 'i' :: c :: stem => 'y' :: c :: stem
  | 's' :: 'e' :: 's' :: 's' :: stem => 's' :: 's' :: stem
  | 's' :: 'e' :: 'x' :: stem => 'x' :: stem
  | 's' :: 'e' :: 'h' :: 'c' :: stem => 'h' :: 'c' :: stem
  | 's' :: 'e' :: 'h' :: 's' :: stem => 'h' :: 's' :: stem
  | 's' :: 's' :: stem => 's' :: 's' :: stem
  | 's' :: c :: stem => c :: stem
  | name => name

/-- A vowel, after which a final `y` is kept. -/
def isVowel (c : Char) : Bool := c == 'a' || c == 'e' || c == 'i' || c == 'o' || c == 'u'

/-- The plural of a singular name; both are written back to front. -/
def pluralReversed : List Char → List Char
  | 'y' :: c :: stem =>
    if isVowel c then 's' :: 'y' :: c :: stem else 's' :: 'e' :: 'i' :: c :: stem
  | 's' :: stem => 's' :: 'e' :: 's' :: stem
  | 'x' :: stem => 's' :: 'e' :: 'x' :: stem
  | 'h' :: 'c' :: stem => 's' :: 'e' :: 'h' :: 'c' :: stem
  | 'h' :: 's' :: stem => 's' :: 'e' :: 'h' :: 's' :: stem
  | name => 's' :: name

/-- The singular form of a name. -/
def singular (name : String) : String :=
  String.ofList (singularReversed name.toList.reverse).reverse

/-- The plural form of a name, made from its singular form. -/
def plural (name : String) : String :=
  String.ofList (pluralReversed (singularReversed name.toList.reverse)).reverse

end Naming

end FluentSql

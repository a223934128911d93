import FluentSql.Json.Basic

/-!
# Equality of JSON values

When two JSON values say the same: numbers of one kind and value, arrays item by item, and objects
with the same fields in any order. The two zeros are the same number, and `1` and `1.0` are not.
-/

namespace FluentSql

/-- Numbers of one kind and value. -/
def Number.same : Number → Number → Bool
  | .int x, .int y => x == y
  | .float x, .float y => x.sameValue y
  | _, _ => false

namespace Json

mutual

/-- Whether two values say the same. -/
def same : Json → Json → Bool
  | .null, .null => true
  | .bool x, .bool y => x == y
  | .number x, .number y => x.same y
  | .string x, .string y => x == y
  | .array xs, .array ys => sameItems xs ys
  | .object xs, .object ys => xs.length == ys.length && sameFields xs ys
  | _, _ => false

/-- Whether two arrays agree item by item. -/
def sameItems : List Json → List Json → Bool
  | [], [] => true
  | x :: xs, y :: ys => x.same y && sameItems xs ys
  | _, _ => false

/-- Whether each of the fields is found among the others with the same value. -/
def sameFields : List (String × Json) → List (String × Json) → Bool
  | [], _ => true
  | (key, x) :: xs, ys =>
    (match ys.lookup key with
      | some y => x.same y
      | none => false) && sameFields xs ys

end

end Json

end FluentSql

import FluentSql.Embedding.Naming

/-!
# Guesses of foreign keys

The columns that may hold a foreign key when none is named: the name of the table referred to, in
its singular and its plural form, with a suffix, and then the columns that a convention adds.
-/

namespace FluentSql

/-- How foreign keys are named. -/
structure NamingConvention where
  /-- The primary key of every table. -/
  primaryKey : String
  /-- What follows the name of a table in a foreign key. -/
  keySuffix : String
  /-- Further columns of the embedding row to try. -/
  forwardExtras : List String
  /-- Further columns of the related table to try. -/
  reverseExtras : List String
deriving DecidableEq, Repr

namespace NamingConvention

/-- Primary keys `id`, foreign keys that end in `_id`, and `user_id` as the last resort. -/
def default : NamingConvention :=
  { primaryKey := "id", keySuffix := "_id", forwardExtras := [], reverseExtras := ["user_id"] }

/-- The foreign keys that the name of a table suggests. -/
def suggested (convention : NamingConvention) (table : String) : List String :=
  [Naming.singular table ++ convention.keySuffix, Naming.plural table ++ convention.keySuffix]

/-- The columns of the embedding row that may refer to a related table. -/
def forwardGuesses (convention : NamingConvention) (related : String) : List String :=
  (convention.suggested related ++ convention.forwardExtras).eraseDups

/-- The columns of a related table that may refer to the embedding one. -/
def reverseGuesses (convention : NamingConvention) (base : String) : List String :=
  (convention.suggested base ++ convention.reverseExtras).eraseDups

end NamingConvention

end FluentSql

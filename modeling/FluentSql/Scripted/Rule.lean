import FluentSql.Json.Equality

/-!
# Scripts

A script says what statements are replied to. A statement takes the first rule that matches it and
is not used up.
-/

namespace FluentSql

/-- A rule: which statements it matches, how often it may still be taken, and its reply. What is not
said matches everything, and what is not counted is never used up. -/
structure Rule (ρ : Type) where
  startsWith : Option String
  contains : Option String
  equals : Option String
  params : Option (List Json)
  remaining : Option Nat
  reply : ρ

/-- Rules in the order in which they are tried. -/
abbrev Script (ρ : Type) := List (Rule ρ)

/-- Whether a text occurs in another. -/
def occursIn (part : List Char) : List Char → Bool
  | [] => part.isEmpty
  | c :: rest => part.isPrefixOf (c :: rest) || occursIn part rest

namespace Rule

variable {ρ : Type}

/-- The rule matches the text of a statement, whatever its values are. -/
def matchesText (rule : Rule ρ) (sql : String) : Bool :=
  rule.startsWith.all (·.toList.isPrefixOf sql.toList) &&
    rule.contains.all (fun part => occursIn part.toList sql.toList) &&
    rule.equals.all (· == sql)

/-- The rule matches a statement with its values. -/
def matchesStatement (rule : Rule ρ) (sql : String) (params : List Json) : Bool :=
  rule.matchesText sql && rule.params.all (Json.sameItems · params)

/-- The rule is not used up. -/
def isLeft (rule : Rule ρ) : Bool := rule.remaining != some 0

/-- The rule after it has been taken once more. -/
def used (rule : Rule ρ) : Rule ρ := { rule with remaining := rule.remaining.map (· - 1) }

end Rule

/-- The reply of the first rule that is left and matches, if there is one, and the script after it.
-/
def Script.take {ρ : Type} (isMatch : Rule ρ → Bool) : Script ρ → Option ρ × Script ρ
  | [] => (none, [])
  | rule :: rest =>
    if rule.isLeft && isMatch rule then (some rule.reply, rule.used :: rest)
    else
      let (reply, rest) := Script.take isMatch rest
      (reply, rule :: rest)

end FluentSql

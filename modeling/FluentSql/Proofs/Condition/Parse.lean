import FluentSql.Proofs.Selection.Parse
import FluentSql.Condition.Parse

/-!
# Reading terms

How a filter expression is taken apart: the terms of a group one by one, a group by its keyword and
parentheses, any other term at its first two points.
-/

namespace FluentSql

/-! ## Terms -/

theorem splitPoint?_append {before after : List Char} (pointless : '.' ∉ before) :
    splitPoint? (before ++ '.' :: after) = some (before, after) := by
  have passed : ∀ c ∈ before, (c != '.') = true := by
    intro c present
    rw [bne_iff_ne]
    rintro rfl
    exact pointless present
  rw [splitPoint?, List.dropWhile_append_of_pos passed, List.takeWhile_append_of_pos passed]
  simp

theorem TermText.ofText?_append {column operator : List Char} (operand : List Char)
    (pointless : '.' ∉ column) (wordy : '.' ∉ operator) :
    TermText.ofText? (column ++ '.' :: (operator ++ '.' :: operand)) =
      some ⟨column, operator, operand⟩ := by
  simp [TermText.ofText?, splitPoint?_append pointless, splitPoint?_append wordy]

theorem Operand.unquoted_quoted (text : List Char) :
    Operand.unquoted ('"' :: (text ++ ['"'])) = text := by
  simp [Operand.unquoted]

/-! ## Groups -/

/-- The word that opens a group. -/
def Joiner.keyword : Joiner → String
  | .and => "and"
  | .or => "or"

theorem afterKeyword?_append (keyword rest : List Char) :
    afterKeyword? keyword (keyword ++ rest) = some rest := by
  induction keyword with
  | nil => rfl
  | cons k keyword ih => simpa [afterKeyword?] using ih

theorem groupBody?_append (keyword body : List Char) :
    groupBody? keyword (keyword ++ '(' :: (body ++ [')'])) = some body := by
  have solid : isBlank '(' = false := by decide
  rw [groupBody?, afterKeyword?_append, Option.bind_some, trimLeft_eq_self solid,
    parenthesised?_eq]

/-- A group is found by its keyword. -/
theorem groupOf?_group (joiner : Joiner) (body : List Char) :
    groupOf? (joiner.keyword.toList ++ '(' :: (body ++ [')'])) = some (joiner, body) := by
  cases joiner with
  | and => rw [groupOf?, Joiner.keyword, groupBody?_append]
  | or =>
    have other : groupBody? "and".toList ("or".toList ++ '(' :: (body ++ [')'])) = none := rfl
    rw [groupOf?, Joiner.keyword, other, groupBody?_append]
    rfl

/-- What follows a keyword in a text that begins with a name and a point is the rest of the name,
and the point. -/
theorem afterKeyword?_name {keyword name text rest : List Char} (pointless : '.' ∉ keyword)
    (found : afterKeyword? keyword (name ++ '.' :: text) = some rest) :
    ∃ more, (∀ c ∈ more, c ∈ name) ∧ rest = more ++ '.' :: text := by
  induction keyword generalizing name with
  | nil =>
    cases found
    exact ⟨name, fun _ present => present, rfl⟩
  | cons k keyword ih =>
    rw [List.mem_cons, not_or] at pointless
    cases name with
    | nil =>
      rw [List.nil_append, afterKeyword?, if_neg (Ne.symm pointless.1)] at found
      cases found
    | cons c name =>
      rw [List.cons_append, afterKeyword?] at found
      split at found
      · obtain ⟨more, within, same⟩ := ih pointless.2 found
        exact ⟨more, fun c present => List.mem_cons_of_mem _ (within c present), same⟩
      · cases found

theorem groupBody?_name {keyword name text : List Char} (pointless : '.' ∉ keyword)
    (named : ∀ c ∈ name, isNameChar c = true) :
    groupBody? keyword (name ++ '.' :: text) = none := by
  cases found : afterKeyword? keyword (name ++ '.' :: text) with
  | none => rw [groupBody?, found, Option.bind_none]
  | some rest =>
    obtain ⟨more, within, rfl⟩ := afterKeyword?_name pointless found
    rw [groupBody?, found, Option.bind_some]
    -- What is left begins with the point or with a character of the name, and with no parenthesis.
    cases more with
    | nil =>
      have solid : isBlank '.' = false := by decide
      rw [List.nil_append, trimLeft_eq_self solid]
      rfl
    | cons c more =>
      have char := named c (within c (by simp))
      rw [List.cons_append, trimLeft_eq_self (isBlank_eq_false_of_isNameChar char), parenthesised?]
      rintro _ ⟨⟩
      exact absurd char (by decide)

/-- A term that begins with the name of a column is no group, even where the name begins with a
keyword. -/
theorem groupOf?_name {name : List Char} (text : List Char)
    (named : ∀ c ∈ name, isNameChar c = true) : groupOf? (name ++ '.' :: text) = none := by
  rw [groupOf?, groupBody?_name (by decide) named, groupBody?_name (by decide) named]
  rfl

namespace Condition

theorem exists_test_of_parseTest {table : String} {term : List Char} {condition : Condition}
    (read : parseTest table term = .ok condition) : ∃ column test, condition = .test column test := by
  unfold parseTest at read
  split at read
  · cases read
  · obtain ⟨column, -, rest⟩ := bind_eq_ok_iff.mp read
    obtain ⟨test, -, same⟩ := bind_eq_ok_iff.mp rest
    cases same
    exact ⟨column, test, rfl⟩

/-- Reads one term: a group, or a test of a column. -/
def parseTerm (table : String) (term : List Char) : Except Error Condition :=
  match groupOf? term with
  | none => parseTest table term
  | some (joiner, body) => parseGroup table joiner body

/-- A term that begins with the name of a column is read as the test of this column. -/
theorem parseTerm_column (table column : Identifier) {operator : List Char}
    (wordy : '.' ∉ operator) (raw : List Char) :
    parseTerm table.name (column.name.toList ++ '.' :: (operator ++ '.' :: raw)) =
      (Test.ofOperator (column.name.toList ++ '.' :: (operator ++ '.' :: raw))
        (String.ofList operator) (Operand.unquoted raw)).map (.test ⟨table, column⟩) := by
  have named := isNameChar_of_isSimpleName column.simple
  have pointless : '.' ∉ column.name.toList := by
    intro present
    exact absurd (named '.' present) (by decide)
  rw [parseTerm, groupOf?_name _ named]
  simp only [parseTest, TermText.ofText?_append _ pointless wordy, String.ofList_toList,
    ColumnRef.ofNames_name, ok_bind]
  cases Test.ofOperator _ _ _ <;> rfl

/-- A group is read term by term. -/
theorem parseGroup_eq {table : String} {joiner : Joiner} {text first : List Char}
    {rest : List (List Char)} (split : segments text = .ok (first :: rest)) :
    parseGroup table joiner text =
      ((first :: rest).mapM (parseTerm table)).map (.group joiner) := by
  unfold parseGroup
  split
  · rename_i same
    rw [split] at same
    cases same
  · rename_i same
    rw [split] at same
    cases same
  · rename_i head tail same
    rw [split] at same
    cases same
    -- The definition keeps with every term that it is one of the text; that is not needed here.
    rw [mapM_attach (parseTerm table)]
    · cases (first :: rest).mapM (parseTerm table) <;> rfl
    · intro term present
      simp only [parseTerm]
      split <;> rename_i found <;> simp only [found]

/-- A text that is read as a group has terms, each of which is read. -/
theorem exists_terms_of_parseGroup {table : String} {joiner : Joiner} {text : List Char}
    {condition : Condition} (read : parseGroup table joiner text = .ok condition) :
    ∃ parts terms, segments text = .ok parts ∧ parts.mapM (parseTerm table) = .ok terms ∧
      terms ≠ [] ∧ condition = .group joiner terms := by
  have unfolded := read
  unfold parseGroup at unfolded
  split at unfolded
  · cases unfolded
  · cases unfolded
  · rename_i first rest split
    rw [parseGroup_eq split, map_eq_ok_iff] at read
    obtain ⟨terms, all, rfl⟩ := read
    refine ⟨first :: rest, terms, split, all, ?_, rfl⟩
    rintro rfl
    cases mapM_eq_ok_iff.mp all

/-- What holds of every test, and of a group if it has terms and holds of each of them, holds of all
that is read. The induction is on the length of the text, as in the reader. -/
theorem parseGroup_holds {table : String} {holds : Condition → Prop}
    (test : ∀ column test, holds (.test column test))
    (group : ∀ joiner terms, terms ≠ [] → (∀ term ∈ terms, holds term) → holds (.group joiner terms))
    {joiner : Joiner} {text : List Char} {condition : Condition}
    (read : parseGroup table joiner text = .ok condition) : holds condition := by
  induction length : text.length using Nat.strongRecOn generalizing joiner text condition with
  | ind bound ih =>
    obtain ⟨parts, terms, split, all, nonempty, rfl⟩ := exists_terms_of_parseGroup read
    refine group joiner terms nonempty ?_
    intro term present
    obtain ⟨part, listed, parsed⟩ := exists_of_mem_mapM all term present
    unfold parseTerm at parsed
    split at parsed
    · obtain ⟨column, tested, rfl⟩ := exists_test_of_parseTest parsed
      exact test column tested
    · rename_i inner body found
      have shorter : body.length < bound := by
        have inside := length_lt_of_groupOf? found
        have within := length_le_of_mem_segments split part listed
        omega
      exact ih body.length shorter parsed rfl

end Condition

end FluentSql

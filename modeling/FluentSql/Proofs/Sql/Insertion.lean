import FluentSql.Proofs.Sql.Predicate

/-!
# Insertions

What an `INSERT` says before its `RETURNING`: which rows it writes into which columns, and what
becomes of a row that is in conflict with one that is there. A reader goes through the tokens once;
placeholders stand for the values at their numbers.

Results:
1. `readNames_separated`, `readRows_separated`, `readAssignments_separated`: lists with commas are
   read item by item.
2. `Insertion.read_eq`: an insertion is read from its parts.
-/

namespace FluentSql.Sql

/-! ## What insertions say -/

/-- What becomes of a row that is in conflict with another. -/
inductive ConflictAction where
  /-- The row is left out. -/
  | nothing
  /-- In the row that is there, columns are set to columns of the row that is left out. -/
  | update (assignments : List (Identifier × Identifier))

/-- The columns that are set on a conflict, each with the column that its value comes from. -/
def ConflictAction.assignments : ConflictAction → List (Identifier × Identifier)
  | nothing => []
  | update assignments => assignments

/-- When rows are in conflict, and what is done then. -/
structure Conflict where
  /-- Rows that agree in these columns are in conflict. -/
  targets : List Identifier
  action : ConflictAction

/-- What an insertion says. -/
structure Insertion where
  table : Identifier
  columns : List Identifier
  /-- The values of each row, in the order of the columns. -/
  rows : List (List Json)
  conflict : Option Conflict

/-! ## A reader -/

/-- Takes reserved words. -/
def takeWords : List String → List Token → Option (List Token)
  | [], tokens => some tokens
  | word :: words, .reserved found :: rest =>
    if found.word = word then takeWords words rest else none
  | _, _ => none

/-- Reads names with commas between them, and the parenthesis after them. -/
def readNames : List Token → Option (List Identifier × List Token)
  | .name name :: .mark .closing :: rest => some ([name], rest)
  | .name name :: .mark .comma :: rest =>
    (readNames rest).map fun (names, left) => (name :: names, left)
  | _ => none

/-- Reads what is left of a row of which some values have been read, and the rows after it. -/
def readCells (values : List Json) (row : List Json) :
    List Token → Option (List (List Json) × List Token)
  | .placeholder number :: .mark .comma :: rest =>
    (boundTo values number).bind fun value => readCells values (row ++ [value]) rest
  | .placeholder number :: .mark .closing :: .mark .comma :: .mark .opening :: rest =>
    (boundTo values number).bind fun value =>
      (readCells values [] rest).map fun (rows, left) => ((row ++ [value]) :: rows, left)
  | .placeholder number :: .mark .closing :: rest =>
    (boundTo values number).map fun value => ([row ++ [value]], rest)
  | _ => none

/-- Reads rows in parentheses with commas between them. -/
def readRows (values : List Json) : List Token → Option (List (List Json) × List Token)
  | .mark .opening :: rest => readCells values [] rest
  | _ => none

/-- Reads assignments with commas between them. -/
def readAssignments : List Token → Option (List (Identifier × Identifier))
  | [.name column, .reserved ⟨"=", _⟩, .reserved ⟨"EXCLUDED", _⟩, .mark .point, .name source] =>
    some [(column, source)]
  | .name column :: .reserved ⟨"=", _⟩ :: .reserved ⟨"EXCLUDED", _⟩ :: .mark .point ::
      .name source :: .mark .comma :: rest =>
    (readAssignments rest).map ((column, source) :: ·)
  | _ => none

/-- Reads what is done on a conflict. -/
def readAction (tokens : List Token) : Option ConflictAction :=
  match takeWords ["DO", "NOTHING"] tokens with
  | some [] => some .nothing
  | _ => ((takeWords ["DO", "UPDATE", "SET"] tokens).bind readAssignments).map .update

/-- Reads what is said of conflicts, if anything is. -/
def readConflict : List Token → Option (Option Conflict)
  | [] => some none
  | tokens =>
    match takeWords ["ON", "CONFLICT"] tokens with
    | some (.mark .opening :: rest) => do
      let (targets, rest) ← readNames rest
      let action ← readAction rest
      some (some ⟨targets, action⟩)
    | _ => none

/-- Reads an insertion, up to the columns that it returns. -/
def Insertion.read (values : List Json) (tokens : List Token) : Option Insertion :=
  match takeWords ["INSERT", "INTO"] tokens with
  | some (.name table :: .mark .opening :: rest) => do
    let (columns, rest) ← readNames rest
    let rest ← takeWords ["VALUES"] rest
    let (rows, rest) ← readRows values rest
    let conflict ← readConflict rest
    some ⟨table, columns, rows, conflict⟩
  | _ => none

/-! ## Lists with commas -/

/-- Tokens of items, with commas between them. -/
inductive Separated {α : Type} (each : α → List Token → Prop) : List α → List Token → Prop
  | one {item : α} {tokens : List Token} (spelled : each item tokens) :
      Separated each [item] tokens
  | more {item : α} {items : List α} {tokens rest : List Token} (spelled : each item tokens)
      (later : Separated each items rest) :
      Separated each (item :: items) (tokens ++ .mark .comma :: rest)

theorem Separated.ne_nil {α : Type} {each : α → List Token → Prop} {items : List α}
    {tokens : List Token} (separated : Separated each items tokens) : items ≠ [] := by
  cases separated <;> exact List.cons_ne_nil _ _

/-- The token of a simple name. -/
def IsName (name : String) (tokens : List Token) : Prop :=
  ∃ column : Identifier, column.name = name ∧ tokens = [.name column]

/-- The tokens of a row of values in parentheses. -/
def IsRow (values cells : List Json) (tokens : List Token) : Prop :=
  ∃ inner, tokens = .mark .opening :: (inner ++ [.mark .closing]) ∧ Lists values inner cells

def equalsToken : Token := wordToken "=" (by decide)
def excludedToken : Token := wordToken "EXCLUDED" (by decide)

/-- The tokens of an assignment that takes a column from the row that is left out. -/
def IsTaken (name : String) (tokens : List Token) : Prop :=
  ∃ column : Identifier, column.name = name ∧
    tokens = [.name column, equalsToken, excludedToken, .mark .point, .name column]

variable {values : List Json} {tokens rest : List Token} {names : List String}

theorem readNames_separated (separated : Separated IsName names tokens) :
    ∃ columns : List Identifier, columns.map Identifier.name = names ∧
      ∀ rest, readNames (tokens ++ .mark .closing :: rest) = some (columns, rest) := by
  induction separated with
  | one spelled =>
    obtain ⟨column, rfl, rfl⟩ := spelled
    exact ⟨[column], rfl, fun rest => rfl⟩
  | @more _ _ _ later spelled _ ih =>
    obtain ⟨column, rfl, rfl⟩ := spelled
    obtain ⟨columns, rfl, read⟩ := ih
    refine ⟨column :: columns, rfl, fun rest => ?_⟩
    show readNames (.name column :: .mark .comma :: (later ++ .mark .closing :: rest)) = _
    rw [readNames, read]
    rfl

theorem readCells_next {cells : List Json} (lists : Lists values tokens cells) (row : List Json)
    (rest : List Token) :
    readCells values row (tokens ++ .mark .closing :: .mark .comma :: .mark .opening :: rest) =
      (readCells values [] rest).map fun (rows, left) => ((row ++ cells) :: rows, left) := by
  induction lists generalizing row with
  | one bound =>
    rw [List.singleton_append, readCells, bound]
    rfl
  | more bound _ ih =>
    rw [List.cons_append, List.cons_append, readCells, bound, Option.bind_some, ih,
      List.append_assoc, List.singleton_append]

theorem readCells_last {cells : List Json} (lists : Lists values tokens cells) (row : List Json)
    (ends : rest.head? ≠ some (.mark .comma)) :
    readCells values row (tokens ++ .mark .closing :: rest) = some ([row ++ cells], rest) := by
  induction lists generalizing row with
  | one bound =>
    rw [List.singleton_append, readCells, bound]
    · rfl
    · rintro later rfl
      exact ends rfl
  | more bound _ ih =>
    rw [List.cons_append, List.cons_append, readCells, bound, Option.bind_some, ih,
      List.append_assoc, List.singleton_append]

variable {α : Type} {cells : α → List Json} {items : List α}

/-- Rows begin with a parenthesis. -/
theorem opening_of_separated
    (separated : Separated (fun item => IsRow values (cells item)) items tokens) :
    ∃ inner, tokens = .mark .opening :: inner := by
  cases separated with
  | one spelled | more spelled =>
    obtain ⟨inner, rfl, -⟩ := spelled
    exact ⟨_, rfl⟩

theorem readRows_separated
    (separated : Separated (fun item => IsRow values (cells item)) items tokens)
    (ends : rest.head? ≠ some (.mark .comma)) :
    readRows values (tokens ++ rest) = some (items.map cells, rest) := by
  induction separated with
  | one spelled =>
    obtain ⟨inner, rfl, lists⟩ := spelled
    rw [List.cons_append, List.append_assoc, List.singleton_append, readRows,
      readCells_last lists [] ends]
    rfl
  | more spelled later ih =>
    obtain ⟨inner, rfl, lists⟩ := spelled
    obtain ⟨others, rfl⟩ := opening_of_separated later
    rw [List.cons_append, readRows] at ih
    rw [List.append_assoc, List.cons_append, List.append_assoc, List.singleton_append, readRows]
    show readCells values [] (inner ++ .mark .closing :: .mark .comma :: .mark .opening ::
      (others ++ rest)) = _
    rw [readCells_next lists, ih]
    rfl

theorem readAssignments_separated (separated : Separated IsTaken names tokens) :
    ∃ columns : List Identifier, columns.map Identifier.name = names ∧
      readAssignments tokens = some (columns.map fun column => (column, column)) := by
  induction separated with
  | one spelled =>
    obtain ⟨column, rfl, rfl⟩ := spelled
    exact ⟨[column], rfl, rfl⟩
  | @more _ _ _ later spelled _ ih =>
    obtain ⟨column, rfl, rfl⟩ := spelled
    obtain ⟨columns, rfl, read⟩ := ih
    refine ⟨column :: columns, rfl, ?_⟩
    show readAssignments (.name column :: equalsToken :: excludedToken :: .mark .point ::
      .name column :: .mark .comma :: later) = _
    unfold equalsToken excludedToken wordToken
    rw [readAssignments, read]
    rfl

/-! ## Conflicts -/

def doNothing : List Token := [wordToken "DO" (by decide), wordToken "NOTHING" (by decide)]

def doUpdateSet : List Token :=
  [wordToken "DO" (by decide), wordToken "UPDATE" (by decide), wordToken "SET" (by decide)]

def onConflict : List Token :=
  [wordToken "ON" (by decide), wordToken "CONFLICT" (by decide), .mark .opening]

/-- The tokens of what is done on a conflict, where columns with these names are to be taken from the
row that is left out. -/
inductive IsAction : List String → List Token → Prop
  | nothing : IsAction [] doNothing
  | update {names : List String} {tokens : List Token} (taken : Separated IsTaken names tokens) :
      IsAction names (doUpdateSet ++ tokens)

/-- The tokens of what is said of conflicts. -/
def IsConflict (targets updates : List String) (tokens : List Token) : Prop :=
  ∃ names action, tokens = onConflict ++ (names ++ .mark .closing :: action) ∧
    Separated IsName targets names ∧ IsAction updates action

/-- Rows that agree in the targets are in conflict, and then the other columns are updated, if there
are any. -/
structure Conflict.Updates (conflict : Conflict) (targets updates : List String) : Prop where
  targets : conflict.targets.map Identifier.name = targets
  assignments : conflict.action.assignments.map (Prod.map Identifier.name Identifier.name) =
    updates.map fun name => (name, name)
  nothing : conflict.action = .nothing ↔ updates = []

theorem readConflict_eq {targets updates : List String} (is : IsConflict targets updates tokens) :
    ∃ conflict : Conflict, readConflict tokens = some (some conflict) ∧
      conflict.Updates targets updates := by
  obtain ⟨names, action, rfl, named, does⟩ := is
  obtain ⟨columns, rfl, read⟩ := readNames_separated named
  have opened : readConflict (onConflict ++ (names ++ .mark .closing :: action)) =
      (readAction action).map fun found => some ⟨columns, found⟩ := by
    show (readNames (names ++ .mark .closing :: action)).bind _ = _
    rw [read, Option.bind_some]
    show (readAction action).bind _ = _
    cases readAction action <;> rfl
  rw [opened]
  cases does with
  | nothing => exact ⟨⟨columns, .nothing⟩, rfl, rfl, rfl, by simp⟩
  | @update names tokens taken =>
    obtain ⟨others, rfl, assigned⟩ := readAssignments_separated taken
    have update : readAction (doUpdateSet ++ tokens) =
        some (.update (others.map fun column => (column, column))) := by
      show ((readAssignments tokens).map ConflictAction.update) = _
      rw [assigned]
      rfl
    have nonempty := taken.ne_nil
    rw [update]
    refine ⟨_, rfl, rfl, ?_, ?_⟩
    · simp [ConflictAction.assignments]
    · simpa using nonempty

/-! ## Insertions -/

def insertInto (table : Identifier) : List Token :=
  [wordToken "INSERT" (by decide), wordToken "INTO" (by decide), .name table]

def valuesToken : Token := wordToken "VALUES" (by decide)

/-- The tokens of the columns and the rows. -/
def IsBody (values : List Json) (columns : List String) (cells : α → List Json) (items : List α)
    (tokens : List Token) : Prop :=
  ∃ names rows, tokens = .mark .opening :: (names ++ .mark .closing :: valuesToken :: rows) ∧
    Separated IsName columns names ∧ Separated (fun item => IsRow values (cells item)) items rows

/-- An insertion is read from its parts. -/
theorem Insertion.read_eq (table : Identifier) {conflict : Option Conflict}
    (body : IsBody values names cells items tokens) (ending : readConflict rest = some conflict) :
    ∃ columns : List Identifier, columns.map Identifier.name = names ∧
      Insertion.read values (insertInto table ++ (tokens ++ rest)) =
        some ⟨table, columns, items.map cells, conflict⟩ := by
  obtain ⟨named, rows, rfl, named_read, rows_read⟩ := body
  obtain ⟨columns, rfl, read⟩ := readNames_separated named_read
  refine ⟨columns, rfl, ?_⟩
  have ends : rest.head? ≠ some (.mark .comma) := by
    intro comma
    obtain ⟨others, rfl⟩ := List.head?_eq_some_iff.mp comma
    cases ending
  show (readNames ((named ++ .mark .closing :: valuesToken :: rows) ++ rest)).bind _ = _
  rw [List.append_assoc, List.cons_append, List.cons_append, read]
  show (readRows values (rows ++ rest)).bind _ = _
  rw [readRows_separated rows_read ends, Option.bind_some]
  show (readConflict rest).bind _ = _
  rw [ending]
  rfl

end FluentSql.Sql

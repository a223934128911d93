import FluentSql.Proofs.Statement.Clause
import FluentSql.Proofs.Statement.Delimited

/-!
# Sheets

A fragment has its values in their places. A sheet keeps them apart from the text: it has places for
them, which are numbered or filled only when the sheet is read, and text that is written after text
becomes one with it. Both are written by the same calls, and come to the same.

Results:
1. `Writing.shows_onto`: each call does to a sheet what its clause does to a fragment, failing or not.
2. `Sheet.Shows.agrees`: a sheet and a fragment that are written alike are read alike.
3. `Composition.lawful`: the laws of writing.
-/

namespace FluentSql

/-! ## Writing on sheets -/

/-- A part of a sheet. -/
inductive Sheet.Part where
  | text (sql : String)
  /-- The place of a value. -/
  | place
deriving DecidableEq

/-- The part is empty text. -/
def Sheet.Part.isBlank : Sheet.Part → Bool
  | .text sql => sql.isEmpty
  | .place => false

/-- The parts of a statement, and apart from them the values for the places. -/
structure Sheet where
  parts : List Sheet.Part
  values : List Json

namespace Sheet

/-- A sheet that begins with a text, or with nothing. -/
def begin (begun : Option String) : Sheet := ⟨begun.toList.map .text, []⟩

/-- Writes text. It becomes one with the text that it comes after. -/
def text (sheet : Sheet) (sql : String) : Sheet :=
  if sql.isEmpty then sheet
  else
    match sheet.parts.getLast? with
    | some (.text last) => { sheet with parts := sheet.parts.dropLast ++ [.text (last ++ sql)] }
    | _ => { sheet with parts := sheet.parts ++ [.text sql] }

/-- Writes a place. -/
def place (sheet : Sheet) : Sheet := { sheet with parts := sheet.parts ++ [.place] }

/-- Writes a value. -/
def bound (sheet : Sheet) (value : Json) : Sheet :=
  { sheet.place with values := sheet.values ++ [value] }

/-- Writes values, with commas between them. -/
def boundList (sheet : Sheet) : List Json → Sheet
  | [] => sheet
  | first :: rest => rest.foldl (fun sheet value => (sheet.text ", ").bound value) (sheet.bound first)

/-- Writes an identifier, unless the name is not simple. -/
def ident (sheet : Sheet) (name : String) : Sheet × Option Error :=
  match Identifier.ofName name with
  | .ok ident => (sheet.text ident.sql, none)
  | .error error => (sheet, some error)

/-- Writes a qualified column, as far as the names are simple. -/
def qualified (sheet : Sheet) (table column : String) : Sheet × Option Error :=
  match sheet.ident table with
  | (sheet, none) => (sheet.text ".").ident column
  | (sheet, some error) => (sheet, some error)

/-- Writes a part. -/
def part (sheet : Sheet) : Part → Sheet
  | .text sql => sheet.text sql
  | .place => sheet.place

/-- Writes what stands on another sheet: its parts, and then its values. -/
def splice (sheet other : Sheet) : Sheet :=
  let joined := other.parts.foldl part sheet
  { joined with values := joined.values ++ other.values }

/-! ## Reading sheets -/

/-- The text of parts after `count` places that come before them. -/
def sqlFrom (count : Nat) : List Part → String
  | [] => ""
  | .text sql :: rest => sql ++ sqlFrom count rest
  | .place :: rest => Fragment.placeholder (count + 1) ++ sqlFrom (count + 1) rest

/-- The text of a sheet, its places numbered from one. -/
def sql (sheet : Sheet) : String := sqlFrom 0 sheet.parts

/-- The text of parts with literals in the places. A place without a value would be null. -/
def fill : List Json → List Part → String
  | _, [] => ""
  | values, .text sql :: rest => sql ++ fill values rest
  | [], .place :: rest => "NULL" ++ fill [] rest
  | value :: values, .place :: rest => value.literal ++ fill values rest

/-- The text of a sheet with literals in the places. -/
def inlineSql (sheet : Sheet) : String := fill sheet.values sheet.parts

/-- Nothing has been written. -/
def isBlank (sheet : Sheet) : Bool := sheet.parts.all Part.isBlank

end Sheet

/-! ## Calls -/

/-- A call that writes. -/
inductive Writing where
  | text (sql : String)
  | bound (value : Json)
  | boundList (values : List Json)
  | ident (name : String)
  | qualified (table column : String)
  /-- What other calls write, after a text or after nothing. -/
  | composed (begun : Option String) (writings : List Writing)

namespace Writing

mutual

/-- What a call writes on a sheet, and the error that it returns. -/
def onto (sheet : Sheet) : Writing → Sheet × Option Error
  | .text sql => (sheet.text sql, none)
  | .bound value => (sheet.bound value, none)
  | .boundList values => (sheet.boundList values, none)
  | .ident name => sheet.ident name
  | .qualified table column => sheet.qualified table column
  | .composed begun writings => (sheet.splice (allOnto (Sheet.begin begun) writings), none)

/-- What calls write on a sheet, one after the other. An error does not keep the next one from writing.
-/
def allOnto (sheet : Sheet) : List Writing → Sheet
  | [] => sheet
  | writing :: rest => allOnto (onto sheet writing).1 rest

end

mutual

/-- What a call writes, as a clause. -/
def clause : Writing → Clause
  | .text sql => .text sql
  | .bound value => .bound value
  | .boundList values => .ofFragment (Fragment.boundList values)
  | .ident name => .ident name
  | .qualified table column => .qualified table column
  | .composed begun writings => .ofFragment (begun.toList.map .text ++ written writings)

/-- What calls write, one after the other. -/
def written : List Writing → Fragment
  | [] => []
  | writing :: rest => (clause writing).written ++ written rest

end

end Writing

/-- Calls that write, one after the other, after a text or after nothing. -/
structure Composition where
  begun : Option String
  writings : List Writing

namespace Composition

/-- The sheet that is written. -/
def sheet (composition : Composition) : Sheet :=
  Writing.allOnto (Sheet.begin composition.begun) composition.writings

/-- The fragment that is written. -/
def fragment (composition : Composition) : Fragment :=
  composition.begun.toList.map .text ++ Writing.written composition.writings

end Composition

/-! ## What a sheet shows -/

namespace Sheet.Part

/-- The part in front of texts that have places between them. -/
def before (part : Part) (later : List String) : List String :=
  match part with
  | .text sql => later.modifyHead (sql ++ ·)
  | .place => "" :: later

/-- The part of a piece. -/
def ofPiece : Piece → Part
  | .text sql => .text sql
  | .bound _ => .place

/-- Parts in front of texts that have places between them. -/
def gapsBefore (parts : List Part) (later : List String) : List String := parts.foldr before later

@[simp] theorem gapsBefore_append (first second : List Part) (later : List String) :
    gapsBefore (first ++ second) later = gapsBefore first (gapsBefore second later) :=
  List.foldr_append

@[simp] theorem gapsBefore_text (sql : String) (later : List String) :
    gapsBefore [.text sql] later = later.modifyHead (sql ++ ·) := rfl

end Sheet.Part

open Sheet.Part

namespace Sheet

variable {sheet other : Sheet} {fragment second : Fragment}

/-- The sheet has the text of the fragment between its places, and the values of it. -/
structure Shows (sheet : Sheet) (fragment : Fragment) : Prop where
  gaps : ∀ later, gapsBefore sheet.parts later = gapsBefore (fragment.map ofPiece) later
  values : sheet.values = fragment.params

theorem values_text (sheet : Sheet) (sql : String) : (sheet.text sql).values = sheet.values := by
  unfold text
  split
  · rfl
  · split <;> rfl

theorem gapsBefore_text (sheet : Sheet) (sql : String) (later : List String) :
    gapsBefore (sheet.text sql).parts later =
      gapsBefore sheet.parts (later.modifyHead (sql ++ ·)) := by
  unfold text
  split
  · rename_i empty
    rw [String.isEmpty_iff.mp empty]
    cases later <;> simp
  · split
    · -- The last text and the new one stand before the same place.
      rename_i last ends
      have whole := List.dropLast_append_getLast? _ ends
      rw [gapsBefore_append, ← whole, gapsBefore_append, List.dropLast_append_getLast? _ ends]
      cases later with
      | nil => rfl
      | cons first rest => simp [String.append_assoc]
    · rw [gapsBefore_append, Part.gapsBefore_text]

/-- Writing part after part does not touch the values. -/
theorem values_foldl (parts : List Part) (sheet : Sheet) :
    (parts.foldl Sheet.part sheet).values = sheet.values := by
  induction parts generalizing sheet with
  | nil => rfl
  | cons part rest ih =>
    rw [List.foldl_cons, ih]
    cases part with
    | text sql => exact values_text sheet sql
    | place => rfl

theorem gapsBefore_foldl (parts : List Part) (sheet : Sheet) (later : List String) :
    gapsBefore (parts.foldl Sheet.part sheet).parts later =
      gapsBefore sheet.parts (gapsBefore parts later) := by
  induction parts generalizing sheet with
  | nil => rfl
  | cons part rest ih =>
    rw [List.foldl_cons, ih]
    cases part with
    | text sql => exact gapsBefore_text sheet sql _
    | place => exact gapsBefore_append _ _ _

namespace Shows

theorem begin (begun : Option String) : Shows (begin begun) (begun.toList.map .text) := by
  cases begun <;> exact ⟨fun _ => rfl, rfl⟩

theorem text (shows : Shows sheet fragment) (sql : String) :
    Shows (sheet.text sql) (fragment ++ Fragment.text sql) where
  gaps later := by
    rw [gapsBefore_text, shows.gaps, List.map_append, gapsBefore_append]
    rfl
  values := by
    rw [values_text, shows.values, Fragment.params_append, Fragment.params_text, List.append_nil]

theorem bound (shows : Shows sheet fragment) (value : Json) :
    Shows (sheet.bound value) (fragment ++ Fragment.bound value) where
  gaps later := by
    rw [Sheet.bound, place, gapsBefore_append, shows.gaps, List.map_append, gapsBefore_append]
    rfl
  values := by
    rw [Sheet.bound, shows.values, Fragment.params_append, Fragment.params_bound]

theorem boundList (shows : Shows sheet fragment) (values : List Json) :
    Shows (sheet.boundList values) (fragment ++ Fragment.boundList values) := by
  cases values with
  | nil =>
    show Shows sheet (fragment ++ [])
    rwa [List.append_nil]
  | cons first rest =>
    rw [Sheet.boundList]
    induction rest generalizing sheet fragment first with
    | nil => exact shows.bound first
    | cons second rest ih =>
      have separated : Fragment.boundList (first :: second :: rest) =
          Fragment.bound first ++ Fragment.text ", " ++ Fragment.boundList (second :: rest) :=
        Fragment.separated_cons_cons ", " _ _ _
      rw [List.foldl_cons, separated, ← List.append_assoc, ← List.append_assoc]
      exact ih ((shows.bound first).text ", ") second

theorem splice (shows : Shows sheet fragment) (shows' : Shows other second) :
    Shows (sheet.splice other) (fragment ++ second) where
  gaps later := by
    rw [Sheet.splice, gapsBefore_foldl, shows.gaps, shows'.gaps, List.map_append, gapsBefore_append]
  values := by
    rw [Sheet.splice, values_foldl, shows.values, shows'.values, Fragment.params_append]

theorem ident (shows : Shows sheet fragment) (name : String) :
    Shows (sheet.ident name).1 (fragment ++ (Clause.ident name).written) ∧
      (sheet.ident name).2 = (Clause.ident name).error := by
  unfold Sheet.ident Clause.ident
  cases Identifier.ofName name with
  | ok ident => exact ⟨shows.text ident.sql, rfl⟩
  | error error =>
    refine ⟨?_, rfl⟩
    show Shows sheet (fragment ++ [])
    rwa [List.append_nil]

theorem qualified (shows : Shows sheet fragment) (table column : String) :
    Shows (sheet.qualified table column).1 (fragment ++ (Clause.qualified table column).written) ∧
      (sheet.qualified table column).2 = (Clause.qualified table column).error := by
  obtain ⟨written, returned⟩ := shows.ident table
  unfold Sheet.qualified Clause.qualified
  cases first : sheet.ident table with
  | mk next error =>
    rw [first] at written returned
    cases error with
    | some error =>
      rw [Clause.append_of_error returned.symm, Clause.append_of_error returned.symm]
      exact ⟨written, returned⟩
    | none =>
      rw [Clause.append_of_done returned.symm, Clause.append_of_done rfl, ← List.append_assoc,
        ← List.append_assoc]
      exact (written.text ".").ident column

end Shows

end Sheet

namespace Writing

open Sheet

mutual

theorem shows_onto {sheet : Sheet} {fragment : Fragment} (shows : Shows sheet fragment) :
    ∀ writing, Shows (onto sheet writing).1 (fragment ++ (clause writing).written) ∧
      (onto sheet writing).2 = (clause writing).error
  | .text sql => ⟨shows.text sql, rfl⟩
  | .bound value => ⟨shows.bound value, rfl⟩
  | .boundList values => ⟨shows.boundList values, rfl⟩
  | .ident name => shows.ident name
  | .qualified table column => shows.qualified table column
  | .composed begun writings => ⟨shows.splice (shows_allOnto (Shows.begin begun) writings), rfl⟩

theorem shows_allOnto {sheet : Sheet} {fragment : Fragment} (shows : Shows sheet fragment) :
    ∀ writings, Shows (allOnto sheet writings) (fragment ++ written writings)
  | [] => by
    rw [written, List.append_nil]
    exact shows
  | writing :: rest => by
    rw [written, ← List.append_assoc]
    exact shows_allOnto (shows_onto shows writing).1 rest

end

end Writing

/-! ## Reading -/

namespace Sheet.Part

theorem length_gapsBefore (parts : List Part) (later : List String) :
    (gapsBefore parts later).length = parts.count .place + later.length := by
  induction parts with
  | nil => simp [gapsBefore]
  | cons part rest ih =>
    have first : gapsBefore (part :: rest) later = part.before (gapsBefore rest later) := rfl
    rw [first]
    cases part with
    | text sql =>
      rw [before, List.length_modifyHead, ih, List.count_cons_of_ne (by simp)]
    | place => rw [before, List.length_cons, ih, List.count_cons_self, Nat.add_right_comm]

end Sheet.Part

/-- The gaps of a fragment are those of its parts. -/
theorem Fragment.gaps_eq (fragment : Fragment) :
    gaps fragment = gapsBefore (fragment.map ofPiece) [""] := by
  induction fragment with
  | nil => rfl
  | cons piece rest ih => cases piece <;> (rw [gaps, ih]; rfl)

namespace Sheet

variable {sheet : Sheet} {fragment : Fragment}

/-- The texts before, between and after the places. -/
def gaps (sheet : Sheet) : List String := gapsBefore sheet.parts [""]

theorem gaps_ne_nil (parts : List Part) : gapsBefore parts [""] ≠ [] := by
  apply List.ne_nil_of_length_pos
  rw [length_gapsBefore]
  exact Nat.succ_pos _

theorem sqlFrom_eq_weave (count : Nat) (parts : List Part) :
    sqlFrom count parts = weave (gapsBefore parts [""])
      ((List.range' (count + 1) (parts.count .place)).map Fragment.placeholder) := by
  induction parts generalizing count with
  | nil => rfl
  | cons part rest ih =>
    cases part with
    | text sql =>
      rw [sqlFrom, ih, List.count_cons_of_ne (by simp)]
      exact (weave_modifyHead (gaps_ne_nil rest) sql _).symm
    | place =>
      rw [sqlFrom, ih, List.count_cons_self, List.range'_succ, List.map_cons]
      exact String.empty_append.symm

theorem fill_eq_weave {values : List Json} {parts : List Part}
    (paired : parts.count .place = values.length) :
    fill values parts = weave (gapsBefore parts [""]) (values.map Json.literal) := by
  induction parts generalizing values with
  | nil =>
    obtain rfl : values = [] := List.eq_nil_of_length_eq_zero paired.symm
    rfl
  | cons part rest ih =>
    cases part with
    | text sql =>
      rw [List.count_cons_of_ne (by simp)] at paired
      rw [fill, ih paired]
      exact (weave_modifyHead (gaps_ne_nil rest) sql _).symm
    | place =>
      rw [List.count_cons_self] at paired
      cases values with
      | nil => cases paired
      | cons value values =>
        rw [fill, ih (Nat.succ.inj paired)]
        exact String.empty_append.symm

/-- The text is empty just when nothing is written. -/
theorem sqlFrom_eq_empty_iff (count : Nat) (parts : List Part) :
    sqlFrom count parts = "" ↔ parts.all Part.isBlank = true := by
  induction parts generalizing count with
  | nil => exact iff_of_true rfl rfl
  | cons part rest ih =>
    rw [List.all_cons, Bool.and_eq_true]
    cases part with
    | text sql => rw [sqlFrom, String.append_eq_empty_iff, ih, Part.isBlank, String.isEmpty_iff]
    | place =>
      rw [sqlFrom, Fragment.placeholder, String.append_eq_empty_iff, String.append_eq_empty_iff]
      exact iff_of_false (fun empty => nomatch empty.1.1) (fun blank => nomatch blank.1)

end Sheet

theorem Fragment.sqlFrom_eq (count : Nat) (fragment : Fragment) :
    sqlFrom count fragment = Sheet.sqlFrom count (fragment.map ofPiece) := by
  induction fragment generalizing count with
  | nil => rfl
  | cons piece rest ih => cases piece <;> rw [sqlFrom, ih] <;> rfl

theorem Fragment.isBlank_iff (fragment : Fragment) : fragment.isBlank = true ↔ fragment.sql = "" := by
  have parts : fragment.isBlank = (fragment.map ofPiece).all Sheet.Part.isBlank := by
    rw [List.all_map]
    refine congrArg fragment.all (funext fun piece => ?_)
    cases piece <;> rfl
  rw [parts, sql, Fragment.sqlFrom_eq, Sheet.sqlFrom_eq_empty_iff]

namespace Sheet

variable {sheet : Sheet} {fragment : Fragment}

theorem isBlank_iff (sheet : Sheet) : sheet.isBlank = true ↔ sheet.sql = "" :=
  (sqlFrom_eq_empty_iff 0 sheet.parts).symm

/-- A sheet has as many places as values, and is read like the fragment. -/
structure Agrees (sheet : Sheet) (fragment : Fragment) : Prop where
  paired : sheet.parts.count .place = sheet.values.length
  values : sheet.values = fragment.params
  sql : ∀ count, sqlFrom count sheet.parts = Fragment.sqlFrom count fragment
  inlineSql : sheet.inlineSql = fragment.inlineSql
  isBlank : sheet.isBlank = fragment.isBlank

theorem Shows.agrees (shows : Shows sheet fragment) : Agrees sheet fragment := by
  have gaps : gapsBefore sheet.parts [""] = Fragment.gaps fragment := by
    rw [shows.gaps, Fragment.gaps_eq]
  have paired : sheet.parts.count .place = sheet.values.length := by
    have lengths := congrArg List.length gaps
    rw [length_gapsBefore, Fragment.length_gaps, ← shows.values] at lengths
    exact Nat.succ.inj lengths
  have sql : ∀ count, sqlFrom count sheet.parts = Fragment.sqlFrom count fragment := by
    intro count
    rw [sqlFrom_eq_weave, Fragment.sqlFrom_eq_weave, gaps, paired, shows.values]
  refine ⟨paired, shows.values, sql, ?_, ?_⟩
  · rw [Sheet.inlineSql, fill_eq_weave paired, Fragment.inlineSql_eq_weave, gaps, shows.values]
  · rw [Bool.eq_iff_iff, isBlank_iff, Fragment.isBlank_iff, Sheet.sql, sql]
    rfl

/-! ## The laws -/

/-- What was written stays in front of what is written later. -/
structure Extends (before after : Sheet) : Prop where
  sql : ∃ more, after.sql = before.sql ++ more
  inlineSql : ∃ more, after.inlineSql = before.inlineSql ++ more
  values : before.values <+: after.values

/-- The two sheets are read alike. -/
structure Alike (first second : Sheet) : Prop where
  sql : first.sql = second.sql
  inlineSql : first.inlineSql = second.inlineSql
  values : first.values = second.values

/-- A sheet is what one sheet says and then another. The places of the second are numbered on from those
of the first. -/
structure Continues (joined first second : Sheet) : Prop where
  sql : joined.sql = first.sql ++ sqlFrom first.values.length second.parts
  inlineSql : joined.inlineSql = first.inlineSql ++ second.inlineSql
  values : joined.values = first.values ++ second.values

theorem Shows.extended {after : Sheet} {more : Fragment} (shows : Shows sheet fragment)
    (later : Shows after (fragment ++ more)) : Extends sheet after where
  sql := by
    refine ⟨Fragment.sqlFrom (0 + fragment.params.length) more, ?_⟩
    rw [Sheet.sql, Sheet.sql, later.agrees.sql, shows.agrees.sql, Fragment.sqlFrom_append]
  inlineSql := by
    refine ⟨more.inlineSql, ?_⟩
    rw [later.agrees.inlineSql, shows.agrees.inlineSql, Fragment.inlineSql_append]
  values := by
    rw [later.values, shows.values, Fragment.params_append]
    exact List.prefix_append _ _

/-- Sheets that show the same fragment are read alike. -/
theorem Shows.alike {other : Sheet} (first : Shows sheet fragment) (second : Shows other fragment) :
    Alike sheet other where
  sql := (first.agrees.sql 0).trans (second.agrees.sql 0).symm
  inlineSql := first.agrees.inlineSql.trans second.agrees.inlineSql.symm
  values := first.values.trans second.values.symm

theorem Shows.continues {other : Sheet} {second : Fragment} (shows : Shows sheet fragment)
    (shows' : Shows other second) : Continues (sheet.splice other) sheet other where
  sql := by
    rw [Sheet.sql, Sheet.sql, (shows.splice shows').agrees.sql, shows.agrees.sql,
      shows'.agrees.sql, shows.values, Fragment.sqlFrom_append, Nat.zero_add]
  inlineSql := by
    rw [(shows.splice shows').agrees.inlineSql, shows.agrees.inlineSql, shows'.agrees.inlineSql,
      Fragment.inlineSql_append]
  values := by
    rw [(shows.splice shows').values, shows.values, shows'.values, Fragment.params_append]

theorem Shows.splice_assoc {other last : Sheet} {second third : Fragment}
    (shows : Shows sheet fragment) (shows' : Shows other second) (shows'' : Shows last third) :
    Alike ((sheet.splice other).splice last) (sheet.splice (other.splice last)) := by
  have joined := (shows.splice shows').splice shows''
  rw [List.append_assoc] at joined
  exact joined.alike (shows.splice (shows'.splice shows''))

/-- Places that come later have their numbers shifted, and the texts between them stay. -/
theorem sqlFrom_shifted (count : Nat) (sheet : Sheet)
    (paired : sheet.parts.count .place = sheet.values.length) :
    sqlFrom count sheet.parts = weave sheet.gaps ((List.range' 1 sheet.values.length).map
      fun number => Fragment.placeholder (count + number)) := by
  rw [sqlFrom_eq_weave, paired, ← List.map_add_range', List.map_map]
  rfl

end Sheet

namespace Composition

open Sheet

/-- One call more. -/
def add (composition : Composition) (writing : Writing) : Composition :=
  { composition with writings := composition.writings ++ [writing] }

theorem shows (composition : Composition) : Shows composition.sheet composition.fragment :=
  Writing.shows_allOnto (Shows.begin composition.begun) composition.writings

theorem sheet_add (composition : Composition) (writing : Writing) :
    (composition.add writing).sheet = (writing.onto composition.sheet).1 := by
  have last : ∀ writings sheet, Writing.allOnto sheet (writings ++ [writing]) =
      (writing.onto (Writing.allOnto sheet writings)).1 := by
    intro writings
    induction writings with
    | nil => intro sheet; rfl
    | cons first rest ih => intro sheet; exact ih _
  exact last composition.writings _

/-- The laws of writing, for sheets that are written by any calls. A sheet has as many places as values,
is read as the fragment that the same calls write, and is blank just when its text is empty. A call,
also one that fails, keeps what was written in front of what it writes. A sheet that is spliced into
another one is read after it, with the numbers of its places shifted; and of two splices it does not
matter which is done first. -/
theorem lawful :
    (∀ a : Composition,
      Agrees a.sheet a.fragment ∧ (a.sheet.isBlank = true ↔ a.sheet.sql = "")) ∧
    (∀ (a : Composition) (writing : Writing),
      (a.add writing).sheet = (writing.onto a.sheet).1 ∧
        (writing.onto a.sheet).2 = writing.clause.error ∧
        Extends a.sheet (writing.onto a.sheet).1) ∧
    (∀ a b : Composition, Continues (a.sheet.splice b.sheet) a.sheet b.sheet) ∧
    (∀ (a : Composition) (count : Nat),
      sqlFrom count a.sheet.parts = weave a.sheet.gaps ((List.range' 1 a.sheet.values.length).map
        fun number => Fragment.placeholder (count + number))) ∧
    ∀ a b c : Composition,
      Alike ((a.sheet.splice b.sheet).splice c.sheet) (a.sheet.splice (b.sheet.splice c.sheet)) := by
  refine ⟨fun a => ⟨a.shows.agrees, a.sheet.isBlank_iff⟩, fun a writing => ?_, fun a b => ?_,
    fun a count => ?_, fun a b c => ?_⟩
  · obtain ⟨written, returned⟩ := Writing.shows_onto a.shows writing
    exact ⟨a.sheet_add writing, returned, a.shows.extended written⟩
  · exact a.shows.continues b.shows
  · exact sqlFrom_shifted count a.sheet a.shows.agrees.paired
  · exact a.shows.splice_assoc b.shows c.shows

end Composition

end FluentSql

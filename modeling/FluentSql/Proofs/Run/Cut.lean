import FluentSql.Run.Session

/-!
# Texts that are cut

A statement that is longer than the log may show is cut at the last place between two characters that
is not beyond the limit. Places are counted in bytes.

Results:
1. `cutAt_takeBytes`: where a text is cut, for every limit.
2. `CutAt.placeBefore_eq`, `CutAt.unique`: the place is the first one back from the limit.
3. `shownAs_iff`: how a statement is shown.
-/

namespace FluentSql

/-- The beginning of a text up to the last place between its characters that is at most so many bytes
on. -/
structure CutAt (limit : Nat) (text cut : String) : Prop where
  begins : ∃ rest, text = cut ++ rest
  fits : cut.utf8ByteSize ≤ limit
  /-- A later place is beyond the limit, or inside of a character. -/
  last : ∀ place : String.Pos.Raw, place.IsValid text → place.byteIdx ≤ limit →
    place.byteIdx ≤ cut.utf8ByteSize

/-- A text is cut at a place between its characters. -/
theorem CutAt.isValid {limit : Nat} {text cut : String} (isCut : CutAt limit text cut) :
    cut.rawEndPos.IsValid text := by
  obtain ⟨rest, joined⟩ := isCut.begins
  exact String.Pos.Raw.isValid_iff_exists_append.mpr ⟨cut, rest, joined, rfl⟩

/-- It consists of the first bytes of the text. -/
theorem CutAt.bytes {limit : Nat} {text cut : String} (isCut : CutAt limit text cut) :
    cut.toByteArray = text.toByteArray.extract 0 cut.utf8ByteSize := by
  obtain ⟨rest, rfl⟩ := isCut.begins
  rw [String.toByteArray_append, ByteArray.extract_append_eq_left String.size_toByteArray.symm]

/-- The last place between characters that is at most so many bytes on, looked for from there back to
the beginning. -/
def placeBefore (text : String) : Nat → Nat
  | 0 => 0
  | limit + 1 =>
    if (⟨limit + 1⟩ : String.Pos.Raw).IsValid text then limit + 1 else placeBefore text limit

/-- A text is cut where looking back from the limit ends. -/
theorem CutAt.placeBefore_eq {limit : Nat} {text cut : String} (isCut : CutAt limit text cut) :
    placeBefore text limit = cut.utf8ByteSize := by
  induction limit with
  | zero => exact (Nat.le_zero.mp isCut.fits).symm
  | succ limit ih =>
    rw [placeBefore]
    split
    · rename_i valid
      exact Nat.le_antisymm (isCut.last _ valid (Nat.le_refl _)) isCut.fits
    · rename_i inside
      -- The text is not cut inside of a character, and so before the limit.
      have other : cut.utf8ByteSize ≠ limit + 1 := fun same => inside (same ▸ isCut.isValid)
      have fits : cut.utf8ByteSize ≤ limit := by
        have fits := isCut.fits
        omega
      exact ih ⟨isCut.begins, fits, fun place valid le => isCut.last place valid (Nat.le_succ_of_le le)⟩

/-- A text is cut at one place only. -/
theorem CutAt.unique {limit : Nat} {text cut other : String} (isCut : CutAt limit text cut)
    (isOther : CutAt limit text other) : cut = other := by
  have same : cut.utf8ByteSize = other.utf8ByteSize :=
    isCut.placeBefore_eq.symm.trans isOther.placeBefore_eq
  rw [← String.toByteArray_inj, isCut.bytes, isOther.bytes, same]

theorem utf8ByteSize_cons (c : Char) (cs : List Char) :
    (String.ofList (c :: cs)).utf8ByteSize = c.utf8Size + (String.ofList cs).utf8ByteSize := by
  rw [String.ofList_cons, String.utf8ByteSize_append, String.utf8ByteSize_singleton]

theorem takeBytes_append (limit : Nat) (cs : List Char) : ∃ rest, cs = takeBytes limit cs ++ rest := by
  induction cs generalizing limit with
  | nil => exact ⟨[], rfl⟩
  | cons c cs ih =>
    rw [takeBytes]
    split
    · obtain ⟨rest, joined⟩ := ih (limit - c.utf8Size)
      exact ⟨rest, congrArg (c :: ·) joined⟩
    · exact ⟨c :: cs, rfl⟩

theorem utf8ByteSize_takeBytes_le (limit : Nat) (cs : List Char) :
    (String.ofList (takeBytes limit cs)).utf8ByteSize ≤ limit := by
  induction cs generalizing limit with
  | nil => exact Nat.zero_le limit
  | cons c cs ih =>
    rw [takeBytes]
    split
    · have rest := ih (limit - c.utf8Size)
      rw [utf8ByteSize_cons]
      omega
    · exact Nat.zero_le limit

/-- Of the beginnings of a text that have at most so many bytes none is longer. -/
theorem utf8ByteSize_le_takeBytes {limit : Nat} {first : List Char} (rest : List Char)
    (fits : (String.ofList first).utf8ByteSize ≤ limit) :
    (String.ofList first).utf8ByteSize ≤
      (String.ofList (takeBytes limit (first ++ rest))).utf8ByteSize := by
  induction first generalizing limit with
  | nil => exact Nat.zero_le _
  | cons c first ih =>
    rw [utf8ByteSize_cons] at fits ⊢
    have room : c.utf8Size ≤ limit := by omega
    have fits : (String.ofList first).utf8ByteSize ≤ limit - c.utf8Size := by omega
    have behind := ih fits
    rw [List.cons_append, takeBytes, if_pos room, utf8ByteSize_cons]
    omega

/-- The beginning that is taken of a text is cut at its last place that fits. -/
theorem cutAt_takeBytes (limit : Nat) (text : String) :
    CutAt limit text (String.ofList (takeBytes limit text.toList)) := by
  refine ⟨?_, utf8ByteSize_takeBytes_le limit text.toList, ?_⟩
  · obtain ⟨rest, joined⟩ := takeBytes_append limit text.toList
    refine ⟨String.ofList rest, ?_⟩
    rw [← String.ofList_append, ← joined, String.ofList_toList]
  · intro place valid fits
    obtain ⟨first, rest, rfl, rfl⟩ := String.Pos.Raw.isValid_iff_exists_append.mp valid
    have first_fits : (String.ofList first.toList).utf8ByteSize ≤ limit := by
      rwa [String.ofList_toList]
    have longest := utf8ByteSize_le_takeBytes rest.toList first_fits
    rwa [String.ofList_toList, ← String.toList_append] at longest

/-- How a text is shown under a limit: whole where there is none or the text keeps to it, and else
cut, with three dots. -/
inductive ShownAs (text : String) : Option Nat → String → Prop
  | unlimited : ShownAs text none text
  | whole {limit : Nat} (fits : text.utf8ByteSize ≤ limit) : ShownAs text (some limit) text
  | cut {limit : Nat} {cut : String} (exceeds : limit < text.utf8ByteSize)
      (isCut : CutAt limit text cut) : ShownAs text (some limit) (cut ++ "...")

/-- A statement is shown as its limit says, and in no other way. -/
theorem shownAs_iff {sql shown : String} {maxLogged : Option Nat} :
    ShownAs sql maxLogged shown ↔ shown = loggedText maxLogged sql := by
  unfold loggedText
  cases maxLogged with
  | none =>
    constructor
    · rintro ⟨⟩
      rfl
    · rintro rfl
      exact .unlimited
  | some limit =>
    dsimp only
    split
    · rename_i exceeds
      constructor
      · intro shows
        cases shows with
        | whole fits => exact absurd exceeds (Nat.not_lt.mpr fits)
        | cut _ isCut => rw [isCut.unique (cutAt_takeBytes limit sql)]
      · rintro rfl
        exact .cut exceeds (cutAt_takeBytes limit sql)
    · rename_i keeps
      constructor
      · intro shows
        cases shows with
        | whole => rfl
        | cut exceeds => exact absurd exceeds keeps
      · rintro rfl
        exact .whole (Nat.not_lt.mp keeps)

/-- The second character takes two bytes, of which the limit would leave one. -/
example : loggedText (some 2) "aé" = "a..." := by decide

end FluentSql

import Mathlib.Data.List.Forall2
import FluentSql.Proofs.Json.Inside
import FluentSql.Proofs.Statement.ArrayLiteral

/-!
# Elements of arrays

What a server reads for the items of an array, beside what it is sent for each of them alone at a
placeholder of the element type. Both are the same for all types but the two JSON types, which take
JSON text: alone a string is sent as its JSON text, with quotes, but in an array it is sent bare.

Results:
1. `Json.arrayItem_eq_element_iff`: when an item is sent as it would be alone.
2. `Json.readArray_elements`: what is read for the items of an array.
-/

namespace FluentSql

/-! ## Strings and their JSON text -/

theorem length_escapeChar_pos (c : Char) : 1 ≤ (escapeChar c).length := by
  unfold escapeChar
  repeat' split
  all_goals exact Nat.succ_le_succ (Nat.zero_le _)

/-- The JSON text of a string is longer than the string. -/
theorem length_jsonString (text : String) : text.length + 2 ≤ (jsonString text).length := by
  have each : ∀ cs : List Char, cs.length ≤ (cs.flatMap escapeChar).length := by
    intro cs
    induction cs with
    | nil => exact Nat.le_refl 0
    | cons c cs ih =>
      have first := length_escapeChar_pos c
      rw [List.flatMap_cons, List.length_append, List.length_cons]
      omega
  have inner := each text.toList
  rw [String.length_toList] at inner
  rw [jsonString, String.length_ofList, List.length_cons, List.length_append, List.length_singleton]
  omega

theorem jsonString_ne_self (text : String) : jsonString text ≠ text := by
  intro same
  have longer := length_jsonString text
  rw [same] at longer
  omega

/-! ## Items -/

namespace Json

/-- The value is an array. -/
def isArray : Json → Bool
  | .array _ => true
  | _ => false

/-- The element that has what is sent for a value alone, at a placeholder of the element type. -/
def element (type : ScalarType) (value : Json) : ArrayItem := .value (value.encode (.scalar type))

theorem arrayItems_eq_map (items : List Json) : arrayItems items = items.map arrayItem := by
  induction items with
  | nil => rw [arrayItems, List.map_nil]
  | cons item rest ih => rw [arrayItems, ih, List.map_cons]

/-- What is sent for a value alone, apart from nulls. -/
theorem encode_scalar {value : Json} (present : value.isNull = false) (type : ScalarType) :
    value.encode (.scalar type) =
      some (if (SqlType.scalar type).isJson then value.text else value.string?.getD value.text) := by
  unfold encode
  cases value with
  | null => cases present
  | _ => cases (SqlType.scalar type).isJson <;> rfl

/-- An item is sent as it would be alone, unless it is a string and JSON text is due. -/
theorem arrayItem_eq_element_iff {item : Json} (flat : item.isArray = false) (type : ScalarType) :
    item.arrayItem = item.element type ↔
      ((SqlType.scalar type).isJson = true → item.string? = none) := by
  cases item with
  | null => exact iff_of_true rfl fun _ => rfl
  | array => cases flat
  | bool | number | object =>
    refine iff_of_true ?_ fun _ => rfl
    rw [element, encode_scalar rfl]
    cases (SqlType.scalar type).isJson <;> rfl
  | string text =>
    rw [element, encode_scalar rfl]
    cases (SqlType.scalar type).isJson with
    | false => exact iff_of_true rfl nofun
    | true =>
      refine iff_of_false ?_ fun unquoted => nomatch unquoted rfl
      intro same
      have same : text = jsonString text := Option.some.inj (ArrayItem.value.inj same)
      exact jsonString_ne_self text same.symm

/-- What is read for an item of an array, beside the item alone. -/
structure ReadFor (type : ScalarType) (item : Json) (found : ArrayItem) : Prop where
  /-- It is what is sent for the item alone, unless that is the JSON text of a string. -/
  alone : found = item.element type ↔ ((SqlType.scalar type).isJson = true → item.string? = none)
  /-- A string is sent bare. Read as JSON text it is never that string. -/
  bare : ∀ text, item = .string text → found = .value (some text) ∧ parse? text ≠ some item

theorem readFor_arrayItem {item : Json} (flat : item.isArray = false) (type : ScalarType) :
    item.ReadFor type item.arrayItem := by
  refine ⟨arrayItem_eq_element_iff flat type, ?_⟩
  rintro text rfl
  exact ⟨rfl, parse?_ne_self text⟩

/-- The main result: an array of values that are no arrays is read as one element for each of them.
All are what is sent for the values alone, just when no string is among them or the elements are no
JSON values. -/
theorem readArray_elements {items : List Json} (flat : ∀ item ∈ items, item.isArray = false)
    (type : ScalarType) :
    ∃ found, ((array items).encode (.array type)).bind readArray? = some found ∧
      List.Forall₂ (ReadFor type) items found ∧
      (found = items.map (element type) ↔
        ((SqlType.scalar type).isJson = true → ∀ item ∈ items, item.string? = none)) := by
  refine ⟨arrayItems items, readArray?_arrayElement items, ?_, ?_⟩
  · rw [arrayItems_eq_map, List.forall₂_map_right_iff, List.forall₂_same]
    exact fun item listed => readFor_arrayItem (flat item listed) type
  · rw [arrayItems_eq_map, List.map_inj_left]
    constructor
    · intro same json item listed
      exact (arrayItem_eq_element_iff (flat item listed) type).mp (same item listed) json
    · intro bare item listed
      exact (arrayItem_eq_element_iff (flat item listed) type).mpr fun json => bare json item listed

end Json

namespace Notes

/-- A label, a number, a mark and nothing. -/
def labels : List Json := [.string "plain", .int 7, .object [("urgent", .bool true)], .null]

/-- All labels but the first are sent as JSON text. -/
theorem labels_elements :
    (∀ item ∈ labels, item.isArray = false) ∧
      ∃ found, ((Json.array labels).encode (.array .jsonb)).bind readArray? = some found ∧
        List.Forall₂ (Json.ReadFor .jsonb) labels found ∧
        found ≠ labels.map (Json.element .jsonb) := by
  have flat : ∀ item ∈ labels, item.isArray = false := by
    intro item listed
    simp only [labels, List.mem_cons, List.not_mem_nil, or_false] at listed
    rcases listed with rfl | rfl | rfl | rfl <;> rfl
  obtain ⟨found, read, each, whole⟩ := Json.readArray_elements flat .jsonb
  refine ⟨flat, found, read, each, fun same => ?_⟩
  exact nomatch whole.mp same rfl (.string "plain") List.mem_cons_self

/-- A label alone is sent as JSON text, and in an array it is not, nor is it JSON text. -/
theorem label_bare :
    ((Json.array [.string "plain"]).encode (.array .jsonb)).bind readArray? ≠
        some ([Json.string "plain"].map (Json.element .jsonb)) ∧
      (Json.string "plain").encode (.scalar .jsonb) = some "\"plain\"" ∧
      (Json.array [.string "plain"]).encode (.array .jsonb) = some "\x7b\"plain\"\x7d" ∧
      Json.parse? "plain" = none := by
  refine ⟨?_, by decide, by decide, by rfl⟩
  have read : ((Json.array [.string "plain"]).encode (.array .jsonb)).bind readArray? =
      some [.value (some "plain")] := by rfl
  rw [read]
  intro same
  have texts : some "plain" = (Json.string "plain").encode (.scalar .jsonb) :=
    ArrayItem.value.inj (List.cons.inj (Option.some.inj same)).1
  exact absurd texts (by decide)

end Notes

end FluentSql

import FluentSql.Embedding.Guess
import FluentSql.Statement.Identifier

/-!
# Names of tables in the singular and in the plural

The plural of most names is read as their plural, so that it suggests the same foreign keys. But a
plural is known by its ending only: `movies` ends as `cities` does and is read as the plural of
`movy`, `caches` as the plural of `cach`, and `ses`, which is that of `s`, as the plural of `se`.

Results:
1. `Blurred.iff`: which plurals are not read as those of their names, for names back to front.
2. `misread_iff`: the same for the endings of names.
3. `NamingConvention.guesses_of_plural`: what the plural of a name suggests.
-/

namespace FluentSql

namespace Naming

/-! ## Names back to front -/

/-- A name, back to front, whose plural is not read as its plural. -/
inductive Blurred : List Char → Prop
  | alone : Blurred ['s']
  | xe (stem : List Char) : Blurred ('e' :: 'x' :: stem)
  | sse (stem : List Char) : Blurred ('e' :: 's' :: 's' :: stem)
  | che (stem : List Char) : Blurred ('e' :: 'h' :: 'c' :: stem)
  | she (stem : List Char) : Blurred ('e' :: 'h' :: 's' :: stem)
  | ie (c : Char) (stem : List Char) : Blurred ('e' :: 'i' :: c :: stem)

variable {name stem : List Char}

theorem singularReversed_idem (name : List Char) :
    singularReversed (singularReversed name) = singularReversed name := by
  fun_cases singularReversed name <;> simp_all [singularReversed]

theorem singularReversed_ne_nil (nonempty : name ≠ []) : singularReversed name ≠ [] := by
  fun_cases singularReversed name <;> simp_all

/-- A singular form that ends with an `s` ends with two, or is one letter. -/
theorem stem_of_singular_s (same : singularReversed name = 's' :: stem) :
    stem = [] ∨ ∃ rest, stem = 's' :: rest := by
  cases stem with
  | nil => exact .inl rfl
  | cons c rest => fun_cases singularReversed name <;> grind [singularReversed]

/-- The singular form of a name ends in such a way only if the name is its own singular form. -/
theorem Blurred.of_singular (blurred : Blurred (singularReversed name)) : Blurred name := by
  have single : singularReversed name = name := by
    fun_cases singularReversed name <;> grind [singularReversed, cases Blurred]
  rwa [single] at blurred

theorem Blurred.singular (blurred : Blurred name) : singularReversed name = name := by
  cases blurred <;> rfl

theorem Blurred.singular_plural (blurred : Blurred name) :
    singularReversed (pluralReversed name) ≠ name := by
  cases blurred <;> simp [pluralReversed, singularReversed]

/-- An `s` is taken away at the end of all other names that do not end with one. -/
theorem singularReversed_s {c : Char} (clear : ¬ Blurred (c :: stem)) (other : c ≠ 's') :
    singularReversed ('s' :: c :: stem) = c :: stem := by
  rw [singularReversed]
  · rintro d rest rfl rfl
    exact clear (.ie d rest)
  · rintro rest rfl rfl
    exact clear (.sse rest)
  · rintro rest rfl rfl
    exact clear (.xe rest)
  · rintro rest rfl rfl
    exact clear (.che rest)
  · rintro rest rfl rfl
    exact clear (.she rest)
  · exact other

/-- The plural of a singular form is read as its plural, apart from those forms. -/
theorem singular_plural_of_clear (single : singularReversed name = name) (nonempty : name ≠ [])
    (clear : ¬ Blurred name) : singularReversed (pluralReversed name) = name := by
  fun_cases pluralReversed name with
  | case1 c stem vowel => rfl
  | case2 c stem consonant => rfl
  | case3 stem =>
    rcases stem_of_singular_s single with rfl | ⟨rest, rfl⟩
    · exact absurd .alone clear
    · rfl
  | case4 stem => rfl
  | case5 stem => rfl
  | case6 stem => rfl
  | case7 _ _ other =>
    -- The name does not end with an `s`.
    cases name with
    | nil => exact absurd rfl nonempty
    | cons c stem => exact singularReversed_s clear fun same => other stem (by rw [same])

theorem Blurred.iff (nonempty : name ≠ []) :
    singularReversed (pluralReversed (singularReversed name)) = singularReversed name ↔
      ¬ Blurred name := by
  constructor
  · intro same blurred
    rw [blurred.singular] at same
    exact blurred.singular_plural same
  · intro clear
    exact singular_plural_of_clear (singularReversed_idem name) (singularReversed_ne_nil nonempty)
      fun blurred => clear blurred.of_singular

/-- A vowel before a final `ie`, back to front. -/
def VowelIe (name : List Char) : Prop := ∃ c stem, isVowel c = true ∧ name = 'e' :: 'i' :: c :: stem

/-- A second plural is another one just after a vowel and `ie`. -/
theorem pluralReversed_plural_iff (nonempty : name ≠ []) :
    pluralReversed (singularReversed (pluralReversed (singularReversed name))) =
      pluralReversed (singularReversed name) ↔ ¬ VowelIe name := by
  by_cases blurred : Blurred name
  · rw [blurred.singular]
    unfold VowelIe
    cases blurred with
    | ie c stem =>
      cases vowel : isVowel c <;> simp [pluralReversed, singularReversed, vowel]
    | _ => simp [pluralReversed, singularReversed]
  · rw [(Blurred.iff nonempty).mpr blurred]
    refine iff_of_true rfl ?_
    rintro ⟨c, stem, -, rfl⟩
    exact blurred (.ie c stem)

/-- A plural ends with an `s` that is not all of it. -/
theorem exists_pluralReversed (nonempty : name ≠ []) :
    ∃ c stem, pluralReversed name = 's' :: c :: stem := by
  fun_cases pluralReversed name with
  | case7 =>
    cases name with
    | nil => exact absurd rfl nonempty
    | cons c stem => exact ⟨c, stem, rfl⟩
  | _ => exact ⟨_, _, rfl⟩

theorem Blurred.ne_plural (blurred : Blurred name) {other : List Char} (nonempty : other ≠ []) :
    name ≠ pluralReversed other := by
  obtain ⟨c, stem, plural⟩ := exists_pluralReversed nonempty
  rw [plural]
  cases blurred <;> simp

/-! ## Names -/

/-- The plural of the name ends as the plural of another name does, and is read as that. -/
inductive Misread (name : String) : Prop
  | alone (same : name = "s")
  | sibilant {ending : String} (listed : ending ∈ ["xe", "sse", "che", "she"])
      (ends : ending.toList <:+ name.toList)
  | ie (ends : "ie".toList <:+ name.toList) (longer : name ≠ "ie")

/-- The name ends with a vowel and `ie`. -/
def EndsVowelIe (name : String) : Prop := ∃ c, isVowel c = true ∧ [c, 'i', 'e'] <:+ name.toList

theorem ends_iff {name : String} {ending : List Char} :
    ending <:+ name.toList ↔ ∃ stem, ending.reverse ++ stem = name.toList.reverse :=
  List.reverse_prefix.symm

theorem misread_iff {name : String} : Misread name ↔ Blurred name.toList.reverse := by
  constructor
  · rintro (same | ⟨listed, ends⟩ | ⟨ends, longer⟩)
    · rw [same]
      exact .alone
    · obtain ⟨stem, same⟩ := ends_iff.mp ends
      rw [← same]
      simp only [List.mem_cons, List.not_mem_nil, or_false] at listed
      rcases listed with rfl | rfl | rfl | rfl
      · exact .xe stem
      · exact .sse stem
      · exact .che stem
      · exact .she stem
    · obtain ⟨stem, same⟩ := ends_iff.mp ends
      cases stem with
      | nil =>
        rw [List.append_nil, List.reverse_inj, String.toList_inj] at same
        exact absurd same.symm longer
      | cons c stem =>
        rw [← same]
        exact .ie c stem
  · intro blurred
    have ending (text : String) (stem : List Char)
        (same : text.toList.reverse ++ stem = name.toList.reverse) : text.toList <:+ name.toList :=
      ends_iff.mpr ⟨stem, same⟩
    generalize backwards : name.toList.reverse = letters at blurred ending
    cases blurred with
    | alone => exact .alone (String.toList_inj.mp (List.reverse_inj.mp backwards))
    | xe stem => exact .sibilant (by simp) (ending "xe" stem rfl)
    | sse stem => exact .sibilant (by simp) (ending "sse" stem rfl)
    | che stem => exact .sibilant (by simp) (ending "che" stem rfl)
    | she stem => exact .sibilant (by simp) (ending "she" stem rfl)
    | ie c stem =>
      refine .ie (ending "ie" (c :: stem) rfl) ?_
      rintro rfl
      cases backwards

theorem endsVowelIe_iff {name : String} : EndsVowelIe name ↔ VowelIe name.toList.reverse := by
  unfold EndsVowelIe VowelIe
  simp only [ends_iff]
  constructor
  · rintro ⟨c, vowel, stem, same⟩
    exact ⟨c, stem, vowel, same.symm⟩
  · rintro ⟨c, stem, vowel, same⟩
    exact ⟨c, vowel, stem, same.symm⟩

theorem reverse_singular (name : String) :
    (singular name).toList.reverse = singularReversed name.toList.reverse := by
  rw [singular, String.toList_ofList, List.reverse_reverse]

theorem reverse_plural (name : String) :
    (plural name).toList.reverse = pluralReversed (singularReversed name.toList.reverse) := by
  rw [plural, String.toList_ofList, List.reverse_reverse]

theorem eq_iff_reverse {name other : String} :
    name = other ↔ name.toList.reverse = other.toList.reverse := by
  rw [List.reverse_inj, String.toList_inj]

theorem reverse_ne_nil (table : Identifier) : table.name.toList.reverse ≠ [] := by
  intro empty
  have simple := table.simple
  rw [List.reverse_eq_nil_iff.mp empty] at simple
  cases simple

theorem singular_plural_iff (table : Identifier) :
    singular (plural table.name) = singular table.name ↔ ¬ Misread table.name := by
  rw [eq_iff_reverse, misread_iff, reverse_singular, reverse_singular, reverse_plural]
  exact Blurred.iff (reverse_ne_nil table)

theorem plural_plural_iff (table : Identifier) :
    plural (plural table.name) = plural table.name ↔ ¬ EndsVowelIe table.name := by
  rw [eq_iff_reverse, endsVowelIe_iff, reverse_plural, reverse_plural]
  exact pluralReversed_plural_iff (reverse_ne_nil table)

/-- A plural is made from the singular form only. -/
theorem plural_congr {name other : String} (same : singular name = singular other) :
    plural name = plural other := by
  rw [eq_iff_reverse, reverse_plural, reverse_plural, ← reverse_singular, ← reverse_singular, same]

/-- The second plural of such a name is not the name. -/
theorem Misread.ne_plural_plural {table : Identifier} (misread : Misread table.name) :
    singular table.name ≠ plural (plural table.name) := by
  have blurred := misread_iff.mp misread
  obtain ⟨c, stem, plural⟩ := exists_pluralReversed (reverse_ne_nil table)
  rw [Ne, eq_iff_reverse, reverse_singular, reverse_plural, reverse_plural, blurred.singular, plural]
  exact blurred.ne_plural (singularReversed_ne_nil (List.cons_ne_nil _ _))

end Naming

/-! ## Guesses -/

namespace NamingConvention

open Naming

/-- What the plural of a name suggests, and what the name suggests. -/
theorem suggested_plural_iff (convention : NamingConvention) (extras : List String)
    (table : Identifier) :
    (convention.suggested (plural table.name) ++ extras).eraseDups =
      (convention.suggested table.name ++ extras).eraseDups ↔ ¬ Misread table.name := by
  constructor
  · intro same
    have firsts := congrArg List.head? same
    simp only [suggested, List.cons_append, List.eraseDups_cons, List.head?_cons, Option.some.injEq,
      String.append_left_inj] at firsts
    exact (singular_plural_iff table).mp firsts
  · intro clear
    have same := (singular_plural_iff table).mpr clear
    rw [suggested, suggested, plural_congr same, same]

/-- The foreign key that is formed from the singular form of a name, among the guesses for its plural.
-/
theorem mem_suggested_plural_iff (convention : NamingConvention) (extras : List String)
    (table : Identifier) :
    singular table.name ++ convention.keySuffix ∈
        (convention.suggested (plural table.name) ++ extras).eraseDups ↔
      ¬ Misread table.name ∨ singular table.name ++ convention.keySuffix ∈ extras := by
  have own : singular table.name = singular (plural table.name) ∨
      singular table.name = plural (plural table.name) ↔ ¬ Misread table.name := by
    rw [← singular_plural_iff]
    constructor
    · rintro (same | same)
      · exact same.symm
      · exact (singular_plural_iff table).mpr fun misread => misread.ne_plural_plural same
    · exact fun same => .inl same.symm
  rw [← own, List.mem_eraseDups, List.mem_append, suggested]
  simp only [List.mem_cons, List.not_mem_nil, or_false, String.append_left_inj]

/-- The main result: the plural of a name has the singular form of the name, suggests the same foreign
keys, and suggests the key that is formed from the singular form, apart from extra guesses, just where
it is not misread. The plural of the plural is the plural but for names that end with a vowel and
`ie`. -/
theorem guesses_of_plural (convention : NamingConvention) (table : Identifier) :
    (singular (plural table.name) = singular table.name ↔ ¬ Misread table.name) ∧
    (plural (plural table.name) = plural table.name ↔ ¬ EndsVowelIe table.name) ∧
    (convention.forwardGuesses (plural table.name) = convention.forwardGuesses table.name ↔
      ¬ Misread table.name) ∧
    (convention.reverseGuesses (plural table.name) = convention.reverseGuesses table.name ↔
      ¬ Misread table.name) ∧
    (singular table.name ++ convention.keySuffix ∈ convention.forwardGuesses (plural table.name) ↔
      ¬ Misread table.name ∨
        singular table.name ++ convention.keySuffix ∈ convention.forwardExtras) ∧
    (singular table.name ++ convention.keySuffix ∈ convention.reverseGuesses (plural table.name) ↔
      ¬ Misread table.name ∨
        singular table.name ++ convention.keySuffix ∈ convention.reverseExtras) :=
  ⟨singular_plural_iff table, plural_plural_iff table,
    convention.suggested_plural_iff convention.forwardExtras table,
    convention.suggested_plural_iff convention.reverseExtras table,
    convention.mem_suggested_plural_iff convention.forwardExtras table,
    convention.mem_suggested_plural_iff convention.reverseExtras table⟩

/-- The plural `movies` is read as that of `movy`, so that `movie_id` is not guessed; and `louies` has a
plural of its own. -/
theorem movies_misread :
    isSimpleName "movie".toList = true ∧ plural "movie" = "movies" ∧ singular "movie" = "movie" ∧
      singular "movies" ≠ "movie" ∧
      default.forwardGuesses "movies" ≠ default.forwardGuesses "movie" ∧
      default.reverseGuesses "movies" ≠ default.reverseGuesses "movie" ∧
      "movie" ++ default.keySuffix ∉ default.forwardGuesses "movies" ∧
      isSimpleName "louie".toList = true ∧ plural "louie" = "louies" ∧ plural "louies" ≠ "louies" := by
  decide

end NamingConvention

end FluentSql

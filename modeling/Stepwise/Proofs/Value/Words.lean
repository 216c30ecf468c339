import Stepwise.Value.Writer
import Stepwise.Proofs.Text.Numeral

/-!
# Words in values

The texts of a value are what templates are read from; together with the names of its fields they are all
that the value brings along of text. Written out, a value has quotes, brackets, commas, numerals and escapes
besides, none of which opens a hole. So a value without a dollar in its words has none when it is written.
-/

set_option autoImplicit false

namespace Stepwise

/-! ## Numerals -/

/-- A character that numerals are written with. -/
def isNumeral (c : Char) : Bool := c.isDigit || "+-.e".toList.contains c

/-- Every digit may stand in a numeral. -/
theorem isNumeral_of_isDigit {c : Char} (digit : c.isDigit = true) : isNumeral c = true := by
  simp [isNumeral, digit]

/-- So may every digit of a natural number. -/
theorem isNumeral_of_mem_toDigits {n : Nat} {c : Char} (member : c ∈ Nat.toDigits 10 n) :
    isNumeral c = true :=
  isNumeral_of_isDigit (Nat.isDigit_of_mem_toDigits (by decide) (by decide) member)

/-- So may the digits of a decimal. -/
theorem Binary64.isNumeral_of_mem_normal {d : Decimal} {c : Char} (member : c ∈ (Decimal.normal d).1) :
    isNumeral c = true := by
  have within : (Decimal.normal d).1 ⊆ Nat.toDigits 10 d.digits := by
    intro c member
    have kept := (List.dropWhile_suffix _).subset (List.mem_reverse.mp member)
    exact List.mem_reverse.mp kept
  exact isNumeral_of_mem_toDigits (within member)

/-- So may the zeros that fill it up. -/
theorem isNumeral_of_mem_replicate {n : Nat} {c : Char} (member : c ∈ List.replicate n '0') :
    isNumeral c = true := by
  rw [(List.mem_replicate.mp member).2]
  decide

/-- A real number is written with digits, signs, a point and the mark of a power. -/
theorem Binary64.isNumeral_of_mem_text (x : Binary64) : ∀ c ∈ x.text.toList, isNumeral c = true := by
  have digits : ∀ c ∈ (Decimal.normal x.shortest).1, isNumeral c = true :=
    fun _ => isNumeral_of_mem_normal
  have first : ∀ n, ∀ c ∈ (Decimal.normal x.shortest).1.take n, isNumeral c = true :=
    fun _ c member => digits c (List.mem_of_mem_take member)
  have later : ∀ n, ∀ c ∈ (Decimal.normal x.shortest).1.drop n, isNumeral c = true :=
    fun _ c member => digits c (List.mem_of_mem_drop member)
  have zeros : ∀ n, ∀ c ∈ List.replicate n '0', isNumeral c = true :=
    fun _ _ => isNumeral_of_mem_replicate
  have power : ∀ n : Nat, ∀ c ∈ (toString n).toList, isNumeral c = true := by
    intro n c member
    rw [Nat.toString_eq_ofList_toDigits, String.toList_ofList] at member
    exact isNumeral_of_mem_toDigits member
  have sign : ∀ c ∈ (if x.negative then "-" else "").toList, isNumeral c = true := by
    cases x.negative <;> exact List.all_eq_true.mp (by decide)
  unfold text
  simp only
  split
  · simp only [String.toList_append, List.forall_mem_append]
    exact ⟨sign, List.all_eq_true.mp (by decide)⟩
  · split
    · split
      · simp only [String.toList_append, String.toList_ofList, List.forall_mem_append]
        exact ⟨⟨sign, List.all_eq_true.mp (by decide)⟩, zeros _, digits⟩
      · simp only [String.toList_append, String.toList_ofList, List.forall_mem_append]
        refine ⟨⟨⟨sign, first _, zeros _⟩, List.all_eq_true.mp (by decide)⟩, ?_⟩
        split
        · exact List.all_eq_true.mp (by decide)
        · simpa using later _
    · simp only [String.toList_append, String.toList_ofList, List.forall_mem_append]
      refine ⟨⟨⟨⟨sign, first _⟩, ?_⟩, ?_⟩, power _⟩
      · split
        · simp
        · simp only [String.toList_append, String.toList_ofList, List.forall_mem_append]
          exact ⟨List.all_eq_true.mp (by decide), later _⟩
      · split <;> exact List.all_eq_true.mp (by decide)

/-- A number is written with characters of numerals only. -/
theorem Number.isNumeral_of_mem_chars (n : Number) : ∀ c ∈ n.chars, isNumeral c = true := by
  cases n with
  | real x => exact x.isNumeral_of_mem_text
  | whole n =>
    simp only [chars, Text.toList_toString, List.forall_mem_append]
    refine ⟨?_, fun c => isNumeral_of_mem_toDigits⟩
    split <;> simp [isNumeral]

/-! ## Words -/

namespace Value

mutual

/-- The texts in a value. -/
def texts : Value → List String
  | .text s => [s]
  | .list items => textsOfItems items
  | .record fields => textsOfFields fields
  | _ => []

/-- The texts in the items of a list. -/
def textsOfItems : List Value → List String
  | [] => []
  | item :: rest => texts item ++ textsOfItems rest

/-- The texts in the values of a record's fields. -/
def textsOfFields : List (String × Value) → List String
  | [] => []
  | (_, value) :: rest => texts value ++ textsOfFields rest

end

mutual

/-- The texts in a value and the names of its fields. -/
def words : Value → List String
  | .text s => [s]
  | .list items => wordsOfItems items
  | .record fields => wordsOfFields fields
  | _ => []

/-- The texts and names in the items of a list. -/
def wordsOfItems : List Value → List String
  | [] => []
  | item :: rest => words item ++ wordsOfItems rest

/-- The names of a record's fields, and the texts and names in their values. -/
def wordsOfFields : List (String × Value) → List String
  | [] => []
  | (name, value) :: rest => name :: (words value ++ wordsOfFields rest)

end

mutual

/-- The texts of a value are among its words. -/
theorem texts_subset_words (value : Value) : value.texts ⊆ value.words := by
  cases value with
  | list items => exact textsOfItems_subset_words items
  | record fields => exact textsOfFields_subset_words fields
  | _ => exact List.Subset.refl _

/-- The same of the items of a list. -/
theorem textsOfItems_subset_words (items : List Value) : textsOfItems items ⊆ wordsOfItems items := by
  cases items with
  | nil => exact List.Subset.refl _
  | cons item rest =>
    have first := texts_subset_words item
    have others := textsOfItems_subset_words rest
    intro word member
    exact List.mem_append.mpr ((List.mem_append.mp member).imp (first ·) (others ·))

/-- The same of the fields of a record. -/
theorem textsOfFields_subset_words (fields : List (String × Value)) :
    textsOfFields fields ⊆ wordsOfFields fields := by
  cases fields with
  | nil => exact List.Subset.refl _
  | cons field rest =>
    have first := texts_subset_words field.2
    have others := textsOfFields_subset_words rest
    intro word member
    apply List.mem_cons_of_mem
    exact List.mem_append.mpr ((List.mem_append.mp member).imp (first ·) (others ·))

end

/-- No word of the value has a dollar in it. -/
def IsInert (value : Value) : Prop := ∀ word ∈ value.words, '$' ∉ word.toList

/-- Whether a value has no dollar in it can be decided. -/
instance (value : Value) : Decidable value.IsInert := inferInstanceAs (Decidable (∀ _ ∈ _, _))

/-- Escaping a character brings no dollar in. -/
theorem dollar_not_mem_escapeChar {c : Char} (other : c ≠ '$') : '$' ∉ escapeChar c := by
  have hex : ∀ n < 16, hexDigit n ≠ '$' := by decide
  have high : hexDigit (c.toNat % 16) ≠ '$' := hex _ (Nat.mod_lt _ (by decide))
  unfold escapeChar
  split_ifs with _ _ _ _ _ _ _ small
  iterate 7 · simp
  · have low : hexDigit (c.toNat / 16) ≠ '$' := hex _ (by omega)
    simp [low.symm, high.symm]
  · simpa using other.symm

/-- Quoting a text brings no dollar in. -/
theorem dollar_not_mem_quoted {word : String} (absent : '$' ∉ word.toList) : '$' ∉ quoted word := by
  have escaped : '$' ∉ word.toList.flatMap escapeChar := by
    intro member
    obtain ⟨c, among, occurs⟩ := List.mem_flatMap.mp member
    exact dollar_not_mem_escapeChar (fun same => absent (same ▸ among)) occurs
  simp [quoted, escaped]

/-- No number has a dollar in it. -/
theorem dollar_not_mem_chars (n : Number) : '$' ∉ n.chars :=
  fun member => absurd (n.isNumeral_of_mem_chars '$' member) (by decide)

mutual

/-- The compact notation has no dollar but those of the words. -/
theorem dollar_not_mem_compactChars (value : Value) (inert : ∀ word ∈ value.words, '$' ∉ word.toList) :
    '$' ∉ value.compactChars := by
  cases value with
  | null => decide
  | flag b => cases b <;> decide
  | number n => exact dollar_not_mem_chars n
  | text s => exact dollar_not_mem_quoted (inert s (by simp [words]))
  | list items =>
    have inside := dollar_not_mem_compactItems items inert
    simp [compactChars, inside]
  | record fields =>
    have inside := dollar_not_mem_compactFields fields inert
    simp [compactChars, inside]

/-- The compact text of items without a dollar has none. -/
theorem dollar_not_mem_compactItems (items : List Value)
    (inert : ∀ word ∈ wordsOfItems items, '$' ∉ word.toList) : '$' ∉ compactItems items := by
  match items with
  | [] => simp [compactItems]
  | [item] =>
    simp only [wordsOfItems, List.append_nil] at inert
    exact dollar_not_mem_compactChars item inert
  | item :: next :: rest =>
    rw [wordsOfItems, List.forall_mem_append] at inert
    have first := dollar_not_mem_compactChars item inert.1
    have others := dollar_not_mem_compactItems (next :: rest) inert.2
    simp [compactItems, first, others]

/-- The compact text of fields without a dollar has none. -/
theorem dollar_not_mem_compactFields (fields : List (String × Value))
    (inert : ∀ word ∈ wordsOfFields fields, '$' ∉ word.toList) : '$' ∉ compactFields fields := by
  match fields with
  | [] => simp [compactFields]
  | [(name, value)] =>
    simp only [wordsOfFields, List.append_nil, List.forall_mem_cons] at inert
    have name_quoted := dollar_not_mem_quoted inert.1
    have value_written := dollar_not_mem_compactChars value inert.2
    simp [compactFields, name_quoted, value_written]
  | (name, value) :: next :: rest =>
    rw [wordsOfFields, List.forall_mem_cons, List.forall_mem_append] at inert
    have name_quoted := dollar_not_mem_quoted inert.1
    have value_written := dollar_not_mem_compactChars value inert.2.1
    have others := dollar_not_mem_compactFields (next :: rest) inert.2.2
    simp [compactFields, name_quoted, value_written, others]

end

/-- A value without a dollar in its words has none where it is written into a text. -/
theorem IsInert.dollar_not_mem_render {value : Value} (inert : value.IsInert) :
    '$' ∉ value.render.toList := by
  have written : '$' ∉ value.compact.toList := by
    rw [compact, String.toList_ofList]
    exact dollar_not_mem_compactChars value inert
  cases value with
  | text s => exact inert s (by simp [words])
  | null => simp [render]
  | _ => exact written

end Value

end Stepwise

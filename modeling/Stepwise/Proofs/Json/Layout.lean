import Stepwise.Proofs.Json.Word

/-!
# Laid out texts

The compact and the wide notation of a value differ in their blanks only. A layout says where blanks stand,
and a text in any layout is cut into the same words: those of the value, one after another. What follows
the text may not go on with a numeral, since a number at the end has no closing sign.
-/

set_option autoImplicit false

namespace Stepwise.Json

/-- The blanks of a text: those before an item or a field on some level of nesting, and those behind a
colon. -/
structure Layout where
  newLine : Nat → List Char
  gap : List Char
  isSpace_newLine : ∀ level, ∀ c ∈ newLine level, isSpace c = true
  isSpace_gap : ∀ c ∈ gap, isSpace c = true

/-- No blanks at all. -/
def Layout.compact : Layout where
  newLine _ := []
  gap := []
  isSpace_newLine := by simp
  isSpace_gap := by simp

/-- Every item on a line of its own. -/
def Layout.wide : Layout where
  newLine := Value.newLine
  gap := [' ']
  isSpace_newLine := by
    intro level c member
    rcases List.mem_cons.mp member with rfl | later
    · decide
    · rw [List.eq_of_mem_replicate later]
      decide
  isSpace_gap := by simp [isSpace]

namespace Layout

mutual

/-- The text of a value that stands on some level. -/
def write (layout : Layout) (level : Nat) : Value → List Char
  | .list items =>
    if items.isEmpty then ['[', ']']
    else '[' :: (layout.writeItems (level + 1) items ++ layout.newLine level ++ [']'])
  | .record fields =>
    if fields.isEmpty then ['{', '}']
    else '{' :: (layout.writeFields (level + 1) fields ++ layout.newLine level ++ ['}'])
  | .null => "null".toList
  | .flag true => "true".toList
  | .flag false => "false".toList
  | .number n => n.chars
  | .text s => quoted s

/-- The items of a list as they are laid out, with commas between them. -/
def writeItems (layout : Layout) (level : Nat) : List Value → List Char
  | [] => []
  | [item] => layout.newLine level ++ layout.write level item
  | item :: rest => layout.newLine level ++ layout.write level item ++ ',' :: layout.writeItems level rest

/-- The fields of a record as they are laid out, with commas between them. -/
def writeFields (layout : Layout) (level : Nat) : List (String × Value) → List Char
  | [] => []
  | [(name, value)] =>
    layout.newLine level ++ quoted name ++ ':' :: (layout.gap ++ layout.write level value)
  | (name, value) :: rest =>
    layout.newLine level ++ quoted name ++
      ':' :: (layout.gap ++ (layout.write level value ++ ',' :: layout.writeFields level rest))

end

mutual

/-- The layout without room is the compact text. -/
theorem write_compact (level : Nat) : ∀ value, compact.write level value = value.compactChars
  | .list [] | .record [] => rfl
  | .list (item :: rest) => by
    rw [write, writeItems_compact (level + 1) (item :: rest)]
    simp [Value.compactChars, compact]
  | .record (field :: rest) => by
    rw [write, writeFields_compact (level + 1) (field :: rest)]
    simp [Value.compactChars, compact]
  | .null | .flag true | .flag false | .number _ | .text _ => rfl

/-- So it is for the items of a list. -/
theorem writeItems_compact (level : Nat) : ∀ items, compact.writeItems level items = Value.compactItems items
  | [] => rfl
  | [item] => write_compact level item
  | item :: next :: rest => by
    rw [writeItems, write_compact level item, writeItems_compact level (next :: rest)] <;>
      simp [Value.compactItems, compact]

/-- So it is for the fields of a record. -/
theorem writeFields_compact (level : Nat) :
    ∀ fields, compact.writeFields level fields = Value.compactFields fields
  | [] => rfl
  | [(name, value)] => by
    rw [writeFields, write_compact level value]
    simp [Value.compactFields, compact]
  | (name, value) :: next :: rest => by
    rw [writeFields, write_compact level value, writeFields_compact level (next :: rest)] <;>
      simp [Value.compactFields, compact]

end

mutual

/-- The layout with lines and indentation is the wide text. -/
theorem write_wide (level : Nat) : ∀ value, wide.write level value = value.wideChars level
  | .list [] | .record [] => rfl
  | .list (item :: rest) => by
    rw [write, writeItems_wide (level + 1) (item :: rest)]
    simp [Value.wideChars, wide]
  | .record (field :: rest) => by
    rw [write, writeFields_wide (level + 1) (field :: rest)]
    simp [Value.wideChars, wide]
  | .null | .flag true | .flag false | .number _ | .text _ => rfl

/-- So it is for the items of a list. -/
theorem writeItems_wide (level : Nat) : ∀ items, wide.writeItems level items = Value.wideItems level items
  | [] => rfl
  | [item] => by
    rw [writeItems, write_wide level item]
    rfl
  | item :: next :: rest => by
    rw [writeItems, write_wide level item, writeItems_wide level (next :: rest)] <;>
      simp [Value.wideItems, wide]

/-- So it is for the fields of a record. -/
theorem writeFields_wide (level : Nat) :
    ∀ fields, wide.writeFields level fields = Value.wideFields level fields
  | [] => rfl
  | [(name, value)] => by
    rw [writeFields, write_wide level value]
    simp [Value.wideFields, wide]
  | (name, value) :: next :: rest => by
    rw [writeFields, write_wide level value, writeFields_wide level (next :: rest)] <;>
      simp [Value.wideFields, wide]

end

/-- The compact text of a value is one of its layouts. -/
theorem compact_eq (value : Value) : value.compact = String.ofList (compact.write 0 value) := by
  rw [Value.compact, write_compact]

/-- The wide text of a value is one of its layouts. -/
theorem wide_eq (value : Value) : value.wide = String.ofList (wide.write 0 value) := by
  rw [Value.wide, write_wide]

end Layout

/-! ## Words of laid out texts -/

/-- The words of a text, however much room there is for words. -/
def Reads (text : List Char) (tokens : List Token) : Prop :=
  ∀ bound, text.length ≤ bound → tokens?.go bound text = some tokens

/-- The room of its own length is enough for the words of a text. -/
theorem Reads.tokens?_eq {text : List Char} {tokens : List Token} (reads : Reads text tokens) :
    tokens? text = some tokens :=
  reads text.length le_rfl

/-- An empty text has no words. -/
theorem Reads.nil : Reads [] [] := by
  intro bound _
  rw [tokens?.go]
  rfl

/-- Blanks before a text add no words. -/
theorem Reads.blanks {blanks text : List Char} {tokens : List Token}
    (isBlank : ∀ c ∈ blanks, isSpace c = true) (reads : Reads text tokens) :
    Reads (blanks ++ text) tokens := by
  intro bound room
  have shorter : text.length ≤ bound := by
    rw [List.length_append] at room
    omega
  rw [← reads bound shorter, tokens?.go.eq_def bound text, tokens?.go.eq_def]
  simp only [List.dropWhile_append_of_pos isBlank]

/-- A word before a text becomes its first word. -/
theorem Reads.word {c : Char} {text : List Char} {token : Token} {tokens : List Token} (word : List Char)
    (visible : isSpace c = false) (next : next? (c :: (word ++ text)) = some (token, text))
    (reads : Reads text tokens) : Reads (c :: (word ++ text)) (token :: tokens) := by
  intro bound room
  obtain _ | bound := bound
  · simp at room
  have shorter : text.length ≤ bound := by
    rw [List.length_cons, List.length_append] at room
    omega
  have here : (c :: (word ++ text)).dropWhile isSpace = c :: (word ++ text) :=
    List.dropWhile_cons_of_neg (by simp [visible])
  rw [tokens?.go.eq_def]
  simp only [here, next, reads bound shorter, Option.map_some]

/-- A sign of one character is one word. -/
theorem Reads.sign {c : Char} {text : List Char} {token : Token} {tokens : List Token}
    (visible : isSpace c = false) (next : next? (c :: text) = some (token, text))
    (reads : Reads text tokens) : Reads (c :: text) (token :: tokens) :=
  Reads.word [] visible next reads

/-- A quoted text is one word. -/
theorem Reads.quoted (s : String) {text : List Char} {tokens : List Token} (reads : Reads text tokens) :
    Reads (quoted s ++ text) (.scalar (some (.text s)) :: tokens) :=
  Reads.word (s.toList.flatMap escapeChar ++ ['"']) (by decide) (next?_quoted s text) reads

/-- A whole number within 64 bits is one word, when what follows does not go on with it. -/
theorem Reads.whole {n : Int} (least : Number.leastWhole ≤ n) (greatest : n ≤ Number.greatestWhole)
    {text : List Char} {tokens : List Token} (apart : IsApart text) (reads : Reads text tokens) :
    Reads ((toString n).toList ++ text) (.scalar (some (.number (.whole n))) :: tokens) := by
  have next := next?_whole least greatest apart
  obtain ⟨c, digits, eq⟩ := List.exists_cons_of_ne_nil (Text.toString_ne_nil n)
  have visible : isSpace c = false := by
    rcases Text.isDigit_of_mem_toString (n := n) (by rw [eq]; exact List.mem_cons_self) with rfl | isDigit
    · decide
    · simp only [isSpace, Bool.or_eq_false_iff, beq_eq_false_iff_ne]
      refine ⟨⟨⟨?_, ?_⟩, ?_⟩, ?_⟩ <;>
        · rintro rfl
          exact absurd isDigit (by decide)
  rw [eq] at next ⊢
  exact reads.word digits visible next

/-- Blanks keep a numeral apart from what stands behind them. -/
theorem IsApart.blanks {blanks text : List Char} (isBlank : ∀ c ∈ blanks, isSpace c = true)
    (apart : IsApart text) : IsApart (blanks ++ text) := by
  cases blanks with
  | nil => exact apart
  | cons c blanks =>
    refine IsApart.cons _ ?_
    have blank := isBlank c List.mem_cons_self
    simp only [isSpace, Bool.or_eq_true, beq_iff_eq] at blank
    rcases blank with ((rfl | rfl) | rfl) | rfl <;> decide

end Stepwise.Json

import Stepwise.Json.Token
import Stepwise.Value.Writer
import Stepwise.Proofs.Text.Numeral

/-!
# Words as they are written

A quoted text is read back as that text, and a whole number of 64 bits as that number, whatever follows
them; only behind a number nothing may follow that would go on with it. Quoted texts are read character by
character: what a character is written as makes one part, and the part stands for the character.
-/

set_option autoImplicit false

namespace Stepwise.Json

/-! ## Quoted texts -/

/-- A hexadecimal digit is worth what it was written for. -/
theorem hexValue?_hexDigit : ∀ n < 16, hexValue? (hexDigit n) = some n := by decide

/-- A part that stands for a character wherever it occurs. -/
def Part.Means (part : Part) (c : Char) : Prop :=
  ∀ parts, assemble? (part :: parts) = (assemble? parts).map (c :: ·)

/-- A character stands for itself. -/
theorem Part.means_char (c : Char) : (Part.char c).Means c := fun _ => by rw [assemble?]

/-- A unit below the surrogates stands for the character of its number. -/
theorem Part.means_unit {n : Nat} (low : n < 0xd800) : (Part.unit n).Means (Char.ofNat n) := by
  have notHigh : ¬ (0xd800 ≤ n ∧ n < 0xdc00) := by omega
  have notLow : ¬ (0xdc00 ≤ n ∧ n < 0xe000) := by omega
  have notEither : ¬ (0xd800 ≤ n ∧ n < 0xe000) := by omega
  intro parts
  match parts with
  | [] => simp [assemble?, notEither]
  | .char c :: rest => simp [assemble?, notEither]
  | .unit other :: rest => simp [assemble?, notHigh, notLow]

/-- A written character is scanned as one part, which stands for the character. -/
theorem scanQuoted_escapeChar (c : Char) :
    ∃ part : Part, part.Means c ∧ ∀ rest, scanQuoted (escapeChar c ++ rest) =
      (scanQuoted rest).map fun found => (part :: found.1, found.2) := by
  unfold escapeChar
  split_ifs with quote backslash newline return_ tab back feed small
  · exact ⟨.char '"', quote ▸ Part.means_char _, fun rest => by simp [scanQuoted]⟩
  · exact ⟨.char '\\', backslash ▸ Part.means_char _, fun rest => by simp [scanQuoted]⟩
  · exact ⟨.char '\n', newline ▸ Part.means_char _, fun rest => by simp [scanQuoted]⟩
  · exact ⟨.char '\r', return_ ▸ Part.means_char _, fun rest => by simp [scanQuoted]⟩
  · exact ⟨.char '\t', tab ▸ Part.means_char _, fun rest => by simp [scanQuoted]⟩
  · have same : Char.ofNat 8 = c := by rw [← back, Char.ofNat_toNat]
    exact ⟨.char (Char.ofNat 8), same ▸ Part.means_char _, fun rest => by simp [scanQuoted]⟩
  · have same : Char.ofNat 12 = c := by rw [← feed, Char.ofNat_toNat]
    exact ⟨.char (Char.ofNat 12), same ▸ Part.means_char _, fun rest => by simp [scanQuoted]⟩
  · have high := hexValue?_hexDigit (c.toNat / 16) (by omega)
    have low := hexValue?_hexDigit (c.toNat % 16) (by omega)
    have zero : hexValue? '0' = some 0 := by decide
    have unit : hexUnit? '0' '0' (hexDigit (c.toNat / 16)) (hexDigit (c.toNat % 16)) = some c.toNat := by
      simp only [hexUnit?, zero, high, low, Option.bind_eq_bind, Option.bind_some, Option.pure_def]
      congr 1
      omega
    refine ⟨.unit c.toNat, ?_, fun rest => by simp [scanQuoted, unit]⟩
    have means := Part.means_unit (show c.toNat < 0xd800 by omega)
    rwa [Char.ofNat_toNat] at means
  · refine ⟨.char c, Part.means_char c, fun rest => ?_⟩
    have plain : ¬ (c.toNat < 32 ∨ c = '\\') := by simp [small, backslash]
    rw [List.singleton_append, scanQuoted]
    · rw [if_neg plain]
    · exact quote
    · rintro _ _ _ _ _ same
      exact absurd same backslash
    · rintro _ _ same
      exact absurd same backslash

/-- An escaped text is scanned up to its closing quote, and its parts assemble to the text. -/
theorem scanQuoted_text (text rest : List Char) :
    ∃ parts, scanQuoted (text.flatMap escapeChar ++ '"' :: rest) = some (parts, rest) ∧
      assemble? parts = some text := by
  induction text with
  | nil => exact ⟨[], by simp [scanQuoted], rfl⟩
  | cons c text ih =>
    obtain ⟨parts, scanned, assembled⟩ := ih
    obtain ⟨part, means, scan⟩ := scanQuoted_escapeChar c
    refine ⟨part :: parts, ?_, by rw [means, assembled]; rfl⟩
    rw [List.flatMap_cons, List.append_assoc, scan, scanned]
    rfl

/-- So a quoted text is read as that text. -/
theorem next?_quoted (s : String) (rest : List Char) :
    next? (quoted s ++ rest) = some (.scalar (some (.text s)), rest) := by
  obtain ⟨parts, scanned, assembled⟩ := scanQuoted_text s.toList rest
  have opened : quoted s ++ rest = '"' :: (s.toList.flatMap escapeChar ++ '"' :: rest) := by
    simp [quoted]
  rw [opened, next?, scanned]
  simp [assembled]

/-! ## Numerals -/

/-- A text that does not go on with a numeral. -/
def IsApart (rest : List Char) : Prop :=
  ∀ c ∈ rest.head?, c.isDigit = false ∧ c ≠ '.' ∧ c ≠ 'e' ∧ c ≠ 'E'

/-- The end of the text ends a numeral. -/
theorem IsApart.nil : IsApart [] := by simp [IsApart]

/-- So does a character that no numeral goes on with. -/
theorem IsApart.cons {c : Char} (rest : List Char)
    (other : c.isDigit = false ∧ c ≠ '.' ∧ c ≠ 'e' ∧ c ≠ 'E') : IsApart (c :: rest) := by
  simpa [IsApart] using other

/-- A positive number is written without a leading zero. -/
theorem exists_toDigits_of_pos (n : Nat) (positive : 0 < n) :
    ∃ c rest, Nat.toDigits 10 n = c :: rest ∧ c ≠ '0' := by
  induction n using Nat.strongRecOn with
  | ind n ih =>
    by_cases small : n < 10
    · have first : ∀ n < 10, 0 < n → n.digitChar ≠ '0' := by decide
      exact ⟨n.digitChar, [], Nat.toDigits_of_lt_base small, first n small positive⟩
    · obtain ⟨c, rest, digits, other⟩ := ih (n / 10) (by omega) (by omega)
      refine ⟨c, rest ++ [(n % 10).digitChar], ?_, other⟩
      rw [Nat.toDigits_of_base_le (by decide) (by omega), digits]
      rfl

/-- Digits that fit into 64 bits are all taken. -/
theorem fillDigits_eq {digits : List Char} {number : Nat}
    (fits : Nat.ofDigitChars 10 digits number ≤ Text.maxCount) :
    fillDigits number digits = (Nat.ofDigitChars 10 digits number, []) := by
  induction digits generalizing number with
  | nil => rfl
  | cons c rest ih =>
    rw [Nat.ofDigitChars_cons] at fits ⊢
    have grows := @Nat.ofDigitChars_eq_ofDigitChars_zero rest (10 * number + (c.toNat - '0'.toNat))
    have least : 10 * number + (c.toNat - '0'.toNat) ≤
        10 ^ rest.length * (10 * number + (c.toNat - '0'.toNat)) :=
      Nat.le_mul_of_pos_left _ (Nat.pow_pos (by decide))
    have longer : 10 * number + (c.toNat - 48) ≤ Text.maxCount := by
      have : '0'.toNat = 48 := rfl
      omega
    rw [fillDigits, if_pos longer]
    exact ih fits

/-- The digits of a numeral end where the text is apart from it. -/
theorem spanDigits_append {digits rest : List Char} (isDigit : ∀ c ∈ digits, c.isDigit = true)
    (apart : IsApart rest) : spanDigits (digits ++ rest) = (digits, rest) := by
  have stops : rest.takeWhile Char.isDigit = [] ∧ rest.dropWhile Char.isDigit = rest := by
    cases rest with
    | nil => exact ⟨rfl, rfl⟩
    | cons c rest =>
      have other := (apart c rfl).1
      simp [other]
  rw [spanDigits, List.takeWhile_append_of_pos isDigit, List.dropWhile_append_of_pos isDigit, stops.1,
    stops.2, List.append_nil]

/-- A text that does not go on with a numeral has no decimal places. -/
theorem scanPlaces_apart {rest : List Char} (apart : IsApart rest) :
    scanPlaces rest = some (none, rest) := by
  cases rest with
  | nil => rfl
  | cons c rest =>
    have other := (apart c rfl).2.1
    unfold scanPlaces
    split
    · rename_i point
      cases point
      exact absurd rfl other
    · rfl

/-- A text that does not go on with a numeral has no exponent. -/
theorem scanPower_apart {rest : List Char} (apart : IsApart rest) :
    scanPower rest = some (none, rest) := by
  cases rest with
  | nil => rfl
  | cons c rest =>
    have other := (apart c rfl).2.2
    simp [scanPower, other]

/-- A natural number is written as a single zero or without a leading one, and never with a sign. -/
theorem toDigits_cases (n : Nat) :
    Nat.toDigits 10 n = ['0'] ∨ ∃ c rest, Nat.toDigits 10 n = c :: rest ∧ c ≠ '0' ∧ c ≠ '-' := by
  rcases Nat.eq_zero_or_pos n with rfl | positive
  · exact .inl (by decide)
  · obtain ⟨c, rest, digits, other⟩ := exists_toDigits_of_pos n positive
    refine .inr ⟨c, rest, digits, other, ?_⟩
    rintro rfl
    have isDigit := Nat.isDigit_of_mem_toDigits (b := 10) (n := n) (c := '-') (by decide) (by decide)
      (by rw [digits]; exact List.mem_cons_self)
    exact absurd isDigit (by decide)

/-- The digits of a number are scanned in one piece, with the sign before them. -/
theorem scanNumeral_toDigits (n : Nat) {rest : List Char} (apart : IsApart rest) :
    scanNumeral (Nat.toDigits 10 n ++ rest) = some (⟨false, Nat.toDigits 10 n, none, none⟩, rest) ∧
      scanNumeral ('-' :: (Nat.toDigits 10 n ++ rest)) =
        some (⟨true, Nat.toDigits 10 n, none, none⟩, rest) := by
  have isDigit : ∀ c ∈ Nat.toDigits 10 n, c.isDigit = true := fun c =>
    Nat.isDigit_of_mem_toDigits (by decide) (by decide)
  have spanned := spanDigits_append isDigit apart
  rcases toDigits_cases n with zero | ⟨c, digits, eq, notZero, notMinus⟩
  · rw [zero]
    constructor <;> simp [scanNumeral, scanPlaces_apart apart, scanPower_apart apart]
  · rw [eq] at spanned ⊢
    constructor <;>
      simp_all [scanNumeral, scanPlaces_apart apart, scanPower_apart apart]

/-- The digits of a number that fits are read as that number. -/
theorem number?_toDigits {n : Nat} (fits : n ≤ Text.maxCount) :
    (Literal.mk false (Nat.toDigits 10 n) none none).number? = some (.whole n) := by
  have read : fillDigits 0 (Nat.toDigits 10 n) = (n, []) := by
    rw [fillDigits_eq (by simpa using fits), Nat.ofDigitChars_ten_toDigits]
  simp [Literal.number?, read]

/-- With a sign before them they are read as its negative. -/
theorem number?_toDigits_negative {n : Nat} (positive : 0 < n) (fits : n ≤ Nat.pow 2 63) :
    (Literal.mk true (Nat.toDigits 10 n) none none).number? = some (.whole (-(n : Int))) := by
  have small : n ≤ Text.maxCount := by
    have : Text.maxCount = Nat.pow 2 64 - 1 := rfl
    have : Nat.pow 2 64 = 2 * Nat.pow 2 63 := by decide
    omega
  have read : fillDigits 0 (Nat.toDigits 10 n) = (n, []) := by
    rw [fillDigits_eq (by simpa using small), Nat.ofDigitChars_ten_toDigits]
  simp [Literal.number?, read, positive, fits]

/-- A word that begins with a digit or a minus is a numeral. -/
theorem next?_numeral {c : Char} (numeral : c = '-' ∨ c.isDigit = true) (text : List Char) :
    next? (c :: text) = (scanNumeral (c :: text)).map fun found =>
      (.scalar (found.1.number?.map Value.number), found.2) := by
  unfold next?
  split
  case h_11 => rfl
  all_goals
    rename_i same
    cases same
    exact absurd numeral (by decide)

/-- So a whole number within 64 bits is read as that number. -/
theorem next?_whole {n : Int} (least : Number.leastWhole ≤ n) (greatest : n ≤ Number.greatestWhole)
    {rest : List Char} (apart : IsApart rest) :
    next? ((toString n).toList ++ rest) = some (.scalar (some (.number (.whole n))), rest) := by
  obtain ⟨plain, signed⟩ := scanNumeral_toDigits n.natAbs apart
  have leastEq : Number.leastWhole = -(Nat.pow 2 63 : Int) := rfl
  have greatestEq : Number.greatestWhole = (Nat.pow 2 64 : Int) - 1 := rfl
  have countEq : Text.maxCount = Nat.pow 2 64 - 1 := rfl
  rw [Text.toList_toString]
  by_cases negative : n < 0
  · have value := number?_toDigits_negative (n := n.natAbs) (by omega) (by omega)
    have same : -(n.natAbs : Int) = n := by omega
    rw [if_pos negative, List.singleton_append, List.cons_append, next?_numeral (.inl rfl), signed]
    simp only [Option.map_some, value, same]
  · have value := number?_toDigits (n := n.natAbs) (by omega)
    have same : (n.natAbs : Int) = n := by omega
    obtain ⟨c, digits, eq, isDigit⟩ := Text.exists_toDigits n.natAbs
    rw [eq] at plain value
    rw [if_neg negative, List.nil_append, eq, List.cons_append, next?_numeral (.inr isDigit),
      ← List.cons_append, plain]
    simp only [Option.map_some, value, same]

end Stepwise.Json

/-!
# Blank characters

The characters that count as white space, as the Unicode property `White_Space` lists them, and
the text that is left when blanks are cut off its ends.
-/

set_option autoImplicit false

namespace Stepwise.Text

/-- A white space character of Unicode. -/
def isBlank (c : Char) : Bool :=
  let n := c.toNat
  (9 ≤ n && n ≤ 13) || n == 0x20 || n == 0x85 || n == 0xa0 || n == 0x1680 ||
  (0x2000 ≤ n && n ≤ 0x200a) || n == 0x2028 || n == 0x2029 || n == 0x202f || n == 0x205f ||
  n == 0x3000

/-- The text without the blanks it starts with. -/
def trimStart (text : List Char) : List Char := text.dropWhile isBlank

/-- The text without the blanks it ends with. -/
def trimEnd (text : List Char) : List Char := (text.reverse.dropWhile isBlank).reverse

/-- The text without blanks at either end. -/
def trim (text : List Char) : List Char := trimEnd (trimStart text)

/-- A string without blanks at either end. -/
def trimmed (text : String) : String := String.ofList (trim text.toList)

/-- Whether a string holds blanks only. -/
def isAllBlank (text : String) : Bool := text.toList.all isBlank

/-- Trimming at the front never makes a text longer. -/
theorem length_trimStart_le (text : List Char) : (trimStart text).length ≤ text.length := by
  unfold trimStart
  induction text with
  | nil => simp
  | cons c rest ih =>
    rw [List.dropWhile_cons]
    split
    · exact Nat.le_succ_of_le ih
    · exact Nat.le_refl _

/-- Trimming at the end never makes a text longer. -/
theorem length_trimEnd_le (text : List Char) : (trimEnd text).length ≤ text.length := by
  have h := length_trimStart_le text.reverse
  simpa [trimEnd, trimStart] using h

/-- Trimming never makes a text longer. -/
theorem length_trim_le (text : List Char) : (trim text).length ≤ text.length :=
  Nat.le_trans (length_trimEnd_le _) (length_trimStart_le _)

end Stepwise.Text

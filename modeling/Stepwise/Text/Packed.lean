import Stepwise.Text.Split

/-!
# Packed tables

Long tables of numbers are kept as lines of text: the numbers in base 36, parted by blanks, and the rows
of the table, parted by commas.
-/

set_option autoImplicit false

namespace Stepwise.Text.Packed

/-- The value of a digit in base 36. -/
def digit (c : Char) : Nat := if c.isDigit then c.toNat - 48 else c.toNat - 87

/-- The number that some digits stand for. -/
def number (digits : List Char) : Nat := digits.foldl (fun n c => 36 * n + digit c) 0

/-- The rows of a table. -/
def rows (lines : List String) : List (List Nat) :=
  lines.flatMap fun line =>
    (split [','] line.toList).map fun row => (split [' '] row).map number

end Stepwise.Text.Packed

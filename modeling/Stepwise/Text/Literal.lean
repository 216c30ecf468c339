import Stepwise.Text.Visible

/-!
# Text literals

A text between double quotes on one line. Quotes and backslashes are escaped, line ends and tabulators
by letter, and every other character that cannot be seen by its number.
-/

set_option autoImplicit false

namespace Stepwise.Text

/-- The characters that stand for a character of a literal. -/
def literalChar (c : Char) : List Char :=
  if c = '"' ∨ c = '\\' then ['\\', c]
  else if c = '\n' then ['\\', 'n']
  else if c = '\r' then ['\\', 'r']
  else if c = '\t' then ['\\', 't']
  else if c.toNat = 0 then ['\\', '0']
  else if isVisible c then [c]
  else '\\' :: 'u' :: '{' :: (Nat.toDigits 16 c.toNat ++ ['}'])

/-- The literal of a text. -/
def literal (text : String) : String :=
  String.ofList ('"' :: (text.toList.flatMap literalChar ++ ['"']))

end Stepwise.Text

/-!
# Escapes

In an address a byte may be written as a percent sign and two hexadecimal digits. The characters that must
not stand in a part of an address are written that way, byte by byte; which they are depends on the part.
-/

set_option autoImplicit false

namespace Stepwise.Escape

/-- A hexadecimal digit in upper case. -/
def digit (n : Nat) : Char := if n < 10 then Char.ofNat (48 + n) else Char.ofNat (55 + n)

/-- A byte as an escape. -/
def byte (b : UInt8) : List Char := ['%', digit (b.toNat / 16), digit (b.toNat % 16)]

/-- A character as the escapes of its bytes. -/
def char (c : Char) : List Char := (String.utf8EncodeChar c).flatMap byte

/-- A text in which the characters that do not fit are escaped. -/
def text (isUnfit : Char → Bool) (cs : List Char) : List Char :=
  cs.flatMap fun c => if isUnfit c then char c else [c]

/-- The value of a hexadecimal digit. -/
def digitValue? (b : UInt8) : Option UInt8 :=
  if 48 ≤ b && b < 58 then some (b - 48)
  else if 65 ≤ b && b < 71 then some (b - 55)
  else if 97 ≤ b && b < 103 then some (b - 87)
  else none

/-- The byte that three bytes stand for, if they are an escape. -/
def escaped? (a b c : UInt8) : Option UInt8 :=
  if a == 37 then (digitValue? b).bind fun high => (digitValue? c).map fun low => 16 * high + low else none

/-- The bytes that some bytes stand for. A percent sign without two digits stands for itself. -/
def undone : List UInt8 → List UInt8
  | a :: b :: c :: rest =>
    match escaped? a b c with
    | some d => d :: undone rest
    | none => a :: undone (b :: c :: rest)
  | bytes => bytes

/-- A character that fits nowhere: a control character, or one beyond the plain ones. -/
def unfitAnywhere (c : Char) : Bool := c.toNat < 0x20 || 0x7f ≤ c.toNat

/-- A character that does not fit into a fragment. -/
def unfitForFragment (c : Char) : Bool := unfitAnywhere c || " \"<>`".toList.contains c

/-- A character that does not fit into a query. -/
def unfitForQuery (c : Char) : Bool := unfitAnywhere c || " \"#<>".toList.contains c

/-- A character that does not fit into a query of the web's schemes. -/
def unfitForWebQuery (c : Char) : Bool := unfitForQuery c || c == '\''

/-- A character that does not fit into a path. -/
def unfitForPath (c : Char) : Bool := unfitForFragment c || "#?\x7b\x7d".toList.contains c

/-- A character that does not fit into a user's name or password. -/
def unfitForUser (c : Char) : Bool := unfitForPath c || "/:;=@[\\]^|".toList.contains c

/-- A text as the name or the value of a field of a form. -/
def field (cs : List Char) : List Char :=
  cs.flatMap fun c =>
    if c.isAlphanum || "*-._".toList.contains c then [c]
    else if c == ' ' then ['+']
    else char c

end Stepwise.Escape

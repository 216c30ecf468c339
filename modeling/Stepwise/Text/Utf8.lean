/-!
# UTF-8

Reading bytes as text. Where they are no text, the answer tells how many bytes from the start are.
-/

set_option autoImplicit false

namespace Stepwise.Text

/-- A byte that continues a character. -/
def isContinuation (byte : UInt8) : Bool := 0x80 ≤ byte && byte < 0xc0

/-- The low six bits of a byte that continues a character. -/
def payload (byte : UInt8) : Nat := byte.toNat % 64

/-- The character at the start of some bytes, and the bytes it takes up. Shortest forms only, and no
halves of surrogate pairs. -/
def firstChar? (bytes : List UInt8) : Option (Char × Nat) :=
  match bytes with
  | [] => none
  | a :: rest =>
    if a < 0x80 then some (Char.ofNat a.toNat, 1)
    else
      match rest with
      | b :: rest =>
        if !isContinuation b then none
        else if 0xc2 ≤ a && a < 0xe0 then some (Char.ofNat (a.toNat % 32 * 64 + payload b), 2)
        else
          match rest with
          | c :: rest =>
            if !isContinuation c then none
            else
              let n := (a.toNat % 16 * 64 + payload b) * 64 + payload c
              if 0xe0 ≤ a && a < 0xf0 then
                if n < 0x800 ∨ (0xd800 ≤ n ∧ n < 0xe000) then none else some (Char.ofNat n, 3)
              else
                match rest with
                | d :: _ =>
                  let n := ((a.toNat % 8 * 64 + payload b) * 64 + payload c) * 64 + payload d
                  if !isContinuation d || a < 0xf0 || 0xf5 ≤ a then none
                  else if n < 0x10000 ∨ 0x10ffff < n then none
                  else some (Char.ofNat n, 4)
                | [] => none
          | [] => none
      | [] => none

/-- The text of some bytes; on failure the number of bytes before the first that is no text. -/
def ofUtf8 (bytes : List UInt8) : Except Nat (List Char) := go 0 bytes.length bytes
where
  go (done : Nat) : Nat → List UInt8 → Except Nat (List Char)
    | _, [] => .ok []
    | 0, _ :: _ => .error done
    | bound + 1, bytes =>
      match firstChar? bytes with
      | none => .error done
      | some (c, size) => (go (done + size) bound (bytes.drop size)).map (c :: ·)

end Stepwise.Text

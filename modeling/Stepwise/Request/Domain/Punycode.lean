/-!
# Punycode

A label of any script is coded in letters, digits and hyphens: first its plain characters, then a number for
each other character that tells how far it is from the one before, in the order of their code points. The
numbers are written in base 36, the least digit first; at each place a digit below the threshold of the
place ends the number. The thresholds follow the numbers that came before.
-/

set_option autoImplicit false

namespace Stepwise.Punycode

/-- The base of the numbers. -/
def base : Nat := 36

/-- The first code point that is coded. -/
def firstCode : Nat := 128

/-- The bias of the first number. -/
def firstBias : Nat := 72

/-- The digit of a value: letters come first. -/
def digitChar (value : Nat) : Char :=
  if value < 26 then Char.ofNat (97 + value) else Char.ofNat (22 + value)

/-- The value of a digit. -/
def digitValue? (c : Char) : Option Nat :=
  if c.isLower then some (c.toNat - 97)
  else if c.isUpper then some (c.toNat - 65)
  else if c.isDigit then some (c.toNat - 22)
  else none

/-- The threshold at a place, which is counted in steps of the base. -/
def threshold (place bias : Nat) : Nat := max 1 (min 26 (place - bias))

/-- A digit's threshold is at least one, so a place value never shrinks. -/
theorem one_le_threshold (place bias : Nat) : 1 ≤ threshold place bias := Nat.le_max_left _ _

/-- The bias that follows from what is left of a distance after a number of places. -/
def settledBias (distance place : Nat) : Nat :=
  if 455 < distance then settledBias (distance / 35) (place + base)
  else place + 36 * distance / (distance + 38)
termination_by distance
decreasing_by exact Nat.div_lt_self (by omega) (by omega)

/-- The bias after a number that told of a distance, with as many characters placed. -/
def nextBias (distance placed : Nat) (isFirst : Bool) : Nat :=
  let scaled := if isFirst then distance / 700 else distance / 2
  settledBias (scaled + scaled / placed) 0

/-- The digits of a number. -/
def digits (bias place number : Nat) : List Char :=
  let t := threshold place bias
  if number < t then [digitChar number]
  else digitChar (t + (number - t) % (base - t)) :: digits bias (place + base) ((number - t) / (base - t))
termination_by number
decreasing_by
  have low := one_le_threshold place bias
  have below : number - threshold place bias < number := by omega
  exact Nat.lt_of_le_of_lt (Nat.div_le_self _ _) below

/-- A character that is not coded. -/
def isPlain (c : Char) : Bool := c.toNat < firstCode

/-- How far the coding of a label has come: the digits so far, the distance since the last number, how many
characters are placed, and the bias. -/
structure Coding where
  digits : List Char
  distance : Nat
  placed : Nat
  bias : Nat

namespace Coding

/-- Passes over a character, when those of one code point are to be placed. -/
def pass (plain code : Nat) (state : Coding) (c : Char) : Coding :=
  if c.toNat < code then { state with distance := state.distance + 1 }
  else if c.toNat = code then
    ⟨state.digits ++ Punycode.digits state.bias base state.distance, 0, state.placed + 1,
      nextBias state.distance (state.placed + 1) (state.placed == plain)⟩
  else state

/-- Places the characters of some code points, which are in order. -/
def place (label : List Char) (plain : Nat) : List Nat → Nat → Coding → Coding
  | [], _, state => state
  | code :: rest, from_, state =>
    let start := { state with distance := state.distance + (code - from_) * (state.placed + 1) }
    let passed := label.foldl (pass plain code) start
    place label plain rest (code + 1) { passed with distance := passed.distance + 1 }

end Coding

/-- The code of a label. -/
def encode (label : List Char) : List Char :=
  let plain := label.filter isPlain
  let codes := ((label.filter (!isPlain ·)).map Char.toNat).mergeSort.eraseDups
  let coded := Coding.place label plain.length codes firstCode ⟨[], 0, plain.length, firstBias⟩
  plain ++ (if plain.isEmpty then [] else ['-']) ++ coded.digits

/-- How far the reading of a code has come: the characters placed, the code point and the index of the next,
the bias, and of the number that is being read its start, the weight of its next digit, and the place. -/
structure Decoding where
  label : List Char
  code : Nat
  index : Nat
  bias : Nat
  start : Nat
  weight : Nat
  place : Nat

namespace Decoding

/-- The state before the first number. -/
def first (plain : List Char) : Decoding := ⟨plain, firstCode, 0, firstBias, 0, 1, base⟩

/-- A code point that a character has. -/
def isCode (n : Nat) : Bool := n < 0xd800 || (0xe000 ≤ n && n < 0x110000)

/-- Places a character when its number has been read. -/
def settle (state : Decoding) (index : Nat) : Option Decoding :=
  let size := state.label.length + 1
  let code := state.code + index / size
  let spot := index % size
  if isCode code then
    some ⟨state.label.take spot ++ Char.ofNat code :: state.label.drop spot, code, spot + 1,
      nextBias (index - state.start) size (state.start == 0), spot + 1, 1, base⟩
  else none

/-- Reads a digit. -/
def step (state : Decoding) (c : Char) : Option Decoding := do
  let digit ← digitValue? c
  let index := state.index + digit * state.weight
  let t := threshold state.place state.bias
  if digit < t then state.settle index
  else some { state with index, weight := state.weight * (base - t), place := state.place + base }

/-- Whether no number has been started. -/
def isWhole (state : Decoding) : Bool := state.weight == 1 && state.place == base

end Decoding

/-- The label that a code stands for. -/
def decode? (code : List Char) : Option (List Char) := do
  let tail := (code.reverse.takeWhile (· != '-')).reverse
  let plain := code.take (code.length - tail.length - 1)
  let numbers := if plain.isEmpty then code else tail
  if !plain.all isPlain then none
  let final ← numbers.foldlM Decoding.step (Decoding.first plain)
  if final.isWhole then some final.label else none

end Stepwise.Punycode

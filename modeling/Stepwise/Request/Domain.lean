import Stepwise.Request.Domain.Direction
import Stepwise.Request.Domain.Joining
import Stepwise.Request.Domain.Punycode
import Stepwise.Request.Domain.Spelling

/-!
# Domain names

A domain name is a row of labels. Each is written in its one spelling, and labels of other scripts than the
plain one are written in code, so that what is asked for is plain text.
-/

set_option autoImplicit false

namespace Stepwise.Domain

/-- A label of a domain name: as it is shown, and as it is asked for. -/
structure Label where
  shown : List Char
  asked : List Char

/-- What a label starts with that is in code. -/
def codeMark : List Char := "xn--".toList

/-- A character that may not stand in a domain name. -/
def isForbidden (c : Char) : Bool :=
  c.toNat ≤ 0x20 || c.toNat == 0x7f || "%#/:<>?@[\\]^|".toList.contains c

/-- Whether a label that is not plain is well formed: it starts with no mark, and its joiners are in
place. -/
def isWellFormed (label : List Char) : Bool :=
  (label.head?.map Text.isMark) != some true && joinersFit [] label

/-- The label that a spelled text is, if it is one. What is in code has to be in its one spelling, and must
have needed the code. -/
def Label.ofSpelled? (text : List Char) : Option Label :=
  match Text.after? codeMark text with
  | some code => do
    let shown ← Punycode.decode? code
    if shown.all Punycode.isPlain || spelling? shown != some shown || !isWellFormed shown then none
    return ⟨shown, text⟩
  | none =>
    if text.all Punycode.isPlain then some ⟨text, text⟩
    else if isWellFormed text then some ⟨text, codeMark ++ Punycode.encode text⟩
    else none

/-- The labels of a domain name. -/
def labels? (name : List Char) : Option (List Label) := do
  (Text.split ['.'] (← spelling? name)).mapM Label.ofSpelled?

/-- A domain name as it is asked for. -/
def asked? (name : List Char) : Option String := do
  let labels ← labels? name
  let asked := Text.join ['.'] (labels.map Label.asked)
  let shown := labels.map Label.shown
  if asked.any isForbidden || (shown.any hasLeftward && !shown.all keepsDirection) then none
  else some (String.ofList asked)

end Stepwise.Domain

import Brokerage.Text.Canonical.Composed
import Brokerage.Text.Utf8
import Brokerage.Url.Domain.Direction
import Brokerage.Url.Domain.Folding
import Brokerage.Url.Domain.Joining
import Brokerage.Url.Punycode

/-!
# Domain names

The form in which a domain name is compared and sent: folded and composed, and ASCII only. A label
with other letters is sent in Punycode behind the mark `xn--`, and a label that already comes in
this form has to stand for letters that could have been written instead.
-/

namespace Brokerage.Domain

/-- A name with every character of it folded; `none` if it holds one that no name may hold. -/
def foldAll? : List Char → Option (List Char)
  | [] => some []
  | c :: cs =>
    match fold? c, foldAll? cs with
    | some front, some rest => some (front ++ rest)
    | _, _ => none

/-- A name in the one spelling of all that look like it. -/
def normalized? (cs : List Char) : Option (List Char) :=
  (foldAll? (cs.flatMap Text.piecesOf)).map Text.composed

/-! ### Labels -/

/-- True of a text in ASCII. -/
def isAscii (cs : List Char) : Bool :=
  cs.all (·.toNat < 0x80)

/-- The most letters that a label may have, if not all of them are ASCII. -/
def mostLetters : Nat := 1000

/-- The most characters of Punycode that a label may have. -/
def mostCode : Nat := 2000

/-- True of letters that may be a label: they start with no mark, and joiners fit. -/
def isLabel (letters : List Char) : Bool :=
  !letters.head?.any Text.isMark && joinersFit [] letters
    && (isAscii letters || letters.length ≤ mostLetters)

/-- The mark of a label in Punycode. -/
def punycodeMark : List Char := "xn--".toList

/-- The letters that Punycode stands for, if a name can be written with them. -/
def decoded? (forbidden : Char → Bool) (code : List Char) : Option (List Char) :=
  if !isAscii code || mostCode < code.length || code.isEmpty || code.getLast? = some '-' then none
  else
    match Punycode.read? code with
    | some letters =>
      if normalized? letters = some letters && !letters.any forbidden then some letters else none
    | none => none

/-- The letters that a normalized label stands for; `none` if it can be no label. -/
def letters? (forbidden : Char → Bool) (label : List Char) : Option (List Char) :=
  (if punycodeMark.isPrefixOf label then decoded? forbidden (label.drop 4) else some label).filter
    isLabel

/-- A label as it is sent. -/
def sentLabel (letters : List Char) : List Char :=
  if isAscii letters then letters else punycodeMark ++ Punycode.write letters

/-! ### Names -/

/-- True of labels that can be told apart next to each other: where one runs from right to left,
each keeps its direction. -/
def keepDirections (labels : List (List Char)) : Bool :=
  !labels.any runsLeftward || labels.all keepsDirection

/-- The letters of all labels of a normalized name. -/
def labels? (forbidden : Char → Bool) (name : List Char) : Option (List (List Char)) :=
  if name.any forbidden then none
  else ((name.splitOn '.').mapM (letters? forbidden)).filter keepDirections

/-- A name as it is sent; `none` if it is no domain name. Of ASCII characters it holds none that
are forbidden. -/
def toAscii? (forbidden : Char → Bool) (bytes : Bytes) : Option (List Char) :=
  match Text.decode? bytes with
  | none => none
  | some name =>
    match normalized? name.toList with
    | none => none
    | some name =>
      (labels? forbidden name).map fun labels => List.intercalate ['.'] (labels.map sentLabel)

/-- True of the ASCII characters that the name of a web address may not hold: controls, the space
and the delimiters of a URL. -/
def isForbidden (c : Char) : Bool :=
  c.toNat ≤ 0x20 || c.toNat = 0x7F || "%#/:<>?@[\\]^|".toList.contains c

end Brokerage.Domain

import StorageGateway.Text.Utf8
import StorageGateway.Unicode.Composition
import StorageGateway.Unicode.Direction
import StorageGateway.Unicode.Folding
import StorageGateway.Url.Punycode

/-!
# Names of hosts

A host name is a list of labels between dots. Characters are folded and composed, and every label
has to be valid: composed, and of characters that folding leaves alone and that have no meaning in
URLs. A label outside ASCII is then written in its encoded form, which starts with `xn--`; a label
given in that form has to decode to a valid one. Encoded forms are read up to a length that those
of long labels exceed.

## Main definitions

* `Domain.Label`: a label in both forms.
* `Domain.convert?`: the ASCII form of a name.
* `Domain.toAscii?`: the ASCII form of a name given as bytes.
-/

namespace StorageGateway.Domain

open Unicode

/-- Characters that no host name may hold. -/
def isDenied (c : Char) : Bool :=
  c.toNat ≤ 0x20 || c.toNat == 0x7F || "%#/:<>?@[\\]^|".toList.contains c

/-- A label of a name. -/
structure Label where
  /-- The label as it is read by people. -/
  text : List Char
  /-- The label as it is written in a URL. -/
  ascii : List Char
  deriving DecidableEq, Repr

/-- The start of an encoded label. -/
def encodedMark : List Char := ['x', 'n', '-', '-']

/-- The most characters of a label that is encoded. -/
def maxLabel : Nat := 1000

/-- The most characters after the mark of an encoded label that is read. -/
def maxEncoded : Nat := 2000

/-- Whether a name may hold a character: folding leaves it alone, and it has no meaning in URLs. -/
def isValid (c : Char) : Bool := !isDenied c && Unicode.fold? c == some [c]

/-- The folded and composed form of a text; `none` when it holds a character that is refused. -/
def fold? (cs : List Char) : Option (List Char) :=
  (cs.mapM Unicode.fold?).map fun parts => compose parts.flatten

/-- Whether a label outside ASCII may be part of a name: it is composed, it does not start with a
mark, and its joining marks have an effect. -/
def isProper (label : List Char) : Bool :=
  compose label == label && (label.head?.map fun c => !isMark c).getD true &&
    joinersAreUseful order [] label

/-- The label that an encoded form stands for. -/
def decodeLabel? (encoded : List Char) : Option (List Char) :=
  if maxEncoded < encoded.length then none
  else
    (Punycode.decode? encoded).filter fun label =>
      !label.all isAscii && label.all isValid && isProper label

/-- A label, which is given in its encoded form or as it is read. -/
def label? (label : List Char) : Option Label :=
  if label.all isAscii then
    if encodedMark.isPrefixOf label then
      (decodeLabel? (label.drop 4)).map fun text => ⟨text, label⟩
    else some ⟨label, label⟩
  else if encodedMark.isPrefixOf label || maxLabel < label.length || !isProper label then none
  else some ⟨label, encodedMark ++ Punycode.encode label⟩

/-- Whether the labels of a name read in one way. Only a name that holds a character of a script
written from right to left can fail. -/
def isOneWay (labels : List Label) : Bool :=
  let directions := labels.map fun l => l.text.map direction
  !directions.any (·.any Direction.isRightward) || directions.all Unicode.isOneWay

/-- The labels of a name, each in its ASCII form. A name of ASCII characters only loses its capital
letters, any other one is folded. -/
def convert? (cs : List Char) : Option (List Char) :=
  (if cs.all isAscii then some (cs.map Char.toLower) else fold? cs).bind fun cs =>
    if !cs.all isValid then none
    else
      ((cs.splitOn '.').mapM label?).bind fun labels =>
        if isOneWay labels then some (['.'].intercalate (labels.map Label.ascii)) else none

/-- The ASCII form of the name whose UTF-8 form is given. -/
def toAscii? (bs : Bytes) : Option String :=
  ((Utf8.decode? bs).bind convert?).map String.ofList

end StorageGateway.Domain

import Locking.Name.Registry
import Locking.Text.Utf8

namespace Locking

/-!
Identifiers as bytes: a tag, then the displayed text in UTF-8. The tag tells a reserved word from
a name, which may be displayed alike.
-/

namespace Encoding

def nameTag : UInt8 := 0

def reservedTag : UInt8 := 1

inductive Fault where
  | empty
  | invalidText (fault : Text.Utf8.Fault)
  | unexpectedTag (tag : UInt8)
deriving DecidableEq, Repr

def Fault.message : Fault → String
  | .empty => "identifier: empty input"
  | .invalidText fault => "identifier: invalid utf-8: " ++ fault.message
  | .unexpectedTag tag => "identifier: unexpected tag " ++ toString tag.toNat

def tagOf (id : Identifier) : UInt8 :=
  if id.isReserved then reservedTag else nameTag

/-- Whether the text after this tag is read as quoted. -/
def quotedBy? (tag : UInt8) : Option Bool :=
  if tag = nameTag then some true
  else if tag = reservedTag then some false
  else none

end Encoding

namespace Registry

/-- An identifier that nobody has interned is encoded as its tag alone. -/
def encode (registry : Registry) (id : Identifier) : List UInt8 :=
  Encoding.tagOf id :: Text.Utf8.encode ((registry.text? id).getD "").toList

/-- Reads the text before it looks at the tag, and interns it. -/
def decode (registry : Registry) : List UInt8 → Except Encoding.Fault (Identifier × Registry)
  | [] => .error .empty
  | tag :: bytes =>
      match Text.Utf8.decode bytes with
      | .error fault => .error (.invalidText fault)
      | .ok text =>
          match Encoding.quotedBy? tag with
          | none => .error (.unexpectedTag tag)
          | some quoted => .ok (registry.intern (String.ofList text) quoted)

end Registry

end Locking

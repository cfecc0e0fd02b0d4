import Locking.Name.Encoding

namespace Locking

/-!
What can be asked of a registry, as steps with answers.
-/

namespace Registry

inductive Step where
  | intern (text : String) (quoted : Bool)
  | text (id : Identifier)
  | encode (id : Identifier)
  | decode (bytes : List UInt8)
  /-- Interns a text, encodes the identifier and decodes the bytes. -/
  | roundTrip (text : String) (quoted : Bool)
  | isEmpty
deriving DecidableEq, Repr

inductive Answer where
  /-- An identifier, with the text displayed for it. -/
  | named (id : Identifier) (text : String)
  | text (text : Option String)
  | bytes (bytes : List UInt8)
  | both (id back : Identifier)
  | flag (value : Bool)
  | undecodable (fault : Encoding.Fault)
deriving DecidableEq, Repr

def isEmpty (registry : Registry) : Bool :=
  registry.texts.isEmpty

def comesBack (registry : Registry) (id : Identifier) : Bool :=
  match registry.decode (registry.encode id) with
  | .ok (back, _) => back == id
  | .error _ => false

def step (registry : Registry) : Step → Answer × Registry
  | .intern text quoted =>
      let (id, after) := registry.intern text quoted
      (.named id (after.display id), after)
  | .text id => (.text (registry.text? id), registry)
  | .encode id => (.bytes (registry.encode id), registry)
  | .decode bytes =>
      match registry.decode bytes with
      | .ok (id, after) => (.named id (after.display id), after)
      | .error fault => (.undecodable fault, registry)
  | .roundTrip text quoted =>
      let (id, interned) := registry.intern text quoted
      match interned.decode (interned.encode id) with
      | .ok (back, after) => (.both id back, after)
      | .error fault => (.undecodable fault, interned)
  | .isEmpty => (.flag registry.isEmpty, registry)

def run (registry : Registry) : List Step → List (Answer × Nat)
  | [] => []
  | step :: rest =>
      let (answer, after) := registry.step step
      (answer, after.size) :: after.run rest

end Registry

end Locking

import Locking.Name.Vocabulary
import Locking.Text.Cut
import Locking.Text.Fold

namespace Locking

/-!
Interning of names. A text is first brought to its canonical form: a reserved word, or the text
of a name. Two texts get one identifier if their canonical forms agree.
-/

/-- The longest name kept, in UTF-8 bytes. -/
def maxNameBytes : Nat := 128

/-- What a text stands for, whatever has been interned before. -/
inductive Canonical where
  | reserved (id : Identifier)
  | name (text : String)
deriving DecidableEq, Repr

def cutName (text : String) : String :=
  String.ofList (Text.cut maxNameBytes text.toList)

def foldName (text : String) : String :=
  String.ofList (Text.fold text.toList)

/-- Quoted text is a name as it stands. Unquoted text is folded first, and may turn out to be a
reserved word; folding comes before the cut, as it changes the length. -/
def canonical (text : String) (quoted : Bool) : Canonical :=
  if quoted then .name (cutName text)
  else
    let folded := cutName (foldName text)
    match Vocabulary.reserved? folded with
    | some id => .reserved id
    | none => .name folded

/-- The names in use: `ids` leads from the text of a name to its identifier, `texts` from every
identifier, reserved words included, to the text displayed for it. -/
structure Registry where
  ids : Std.ExtTreeMap String Identifier
  texts : Std.ExtTreeMap Identifier String
  next : Int32

namespace Registry

def fresh : Registry where
  ids := Std.ExtTreeMap.ofList Vocabulary.common
  texts := Std.ExtTreeMap.ofList
    (Vocabulary.reserved.map (fun (word, id) => (id, Vocabulary.capitals word)) ++
      Vocabulary.common.map (fun (word, id) => (id, word)))
  next := Vocabulary.firstFree

def size (registry : Registry) : Nat :=
  registry.texts.size

def assign (registry : Registry) (text : String) : Identifier × Registry :=
  match registry.ids[text]? with
  | some id => (id, registry)
  | none =>
      let id : Identifier := ⟨registry.next⟩
      (id, { ids := registry.ids.insert text id
             texts := registry.texts.insert id text
             next := registry.next + 1 })

def intern (registry : Registry) (text : String) (quoted : Bool) : Identifier × Registry :=
  match canonical text quoted with
  | .reserved id => (id, registry)
  | .name text => registry.assign text

def text? (registry : Registry) (id : Identifier) : Option String :=
  registry.texts[id]?

def display (registry : Registry) (id : Identifier) : String :=
  (registry.text? id).getD id.placeholder

theorem intern_reserved {registry : Registry} {text : String} {quoted : Bool} {id : Identifier}
    (form : canonical text quoted = .reserved id) :
    registry.intern text quoted = (id, registry) := by
  simp only [intern, form]

theorem intern_name {registry : Registry} {text name : String} {quoted : Bool}
    (form : canonical text quoted = .name name) :
    registry.intern text quoted = registry.assign name := by
  simp only [intern, form]

theorem assign_known {registry : Registry} {text : String} {id : Identifier}
    (known : registry.ids[text]? = some id) : registry.assign text = (id, registry) := by
  simp only [assign, known]

end Registry

end Locking

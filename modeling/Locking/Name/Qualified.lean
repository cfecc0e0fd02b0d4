import Locking.Name.Registry

namespace Locking

/-!
Fully qualified names of tables, and the keys under which tables are locked. A key is the displayed
name without any escaping, so two tables whose names are displayed alike share their locks.
-/

abbrev Key := String

structure Spelling where
  text : String
  quoted : Bool
deriving DecidableEq, Repr

structure QualifiedName where
  database : Identifier
  schema : Identifier
  table : Identifier
deriving DecidableEq, Repr

namespace QualifiedName

/-- A table's name as somebody writes it, part by part. -/
structure Written where
  database : Spelling
  schema : Spelling
  table : Spelling
deriving DecidableEq, Repr

/-- The name of a table, all of whose parts are interned. -/
def intern (registry : Registry) (written : Written) : QualifiedName × Registry :=
  let (database, registry) := registry.intern written.database.text written.database.quoted
  let (schema, registry) := registry.intern written.schema.text written.schema.quoted
  let (table, registry) := registry.intern written.table.text written.table.quoted
  (⟨database, schema, table⟩, registry)

def internAll (registry : Registry) : List Written → List QualifiedName × Registry
  | [] => ([], registry)
  | first :: rest =>
      let (name, registry) := intern registry first
      let (names, registry) := internAll registry rest
      (name :: names, registry)

def display (name : QualifiedName) (registry : Registry) : String :=
  registry.display name.database ++ "." ++ registry.display name.schema ++ "." ++
    registry.display name.table

def key (name : QualifiedName) (registry : Registry) : Key :=
  "table " ++ name.display registry

end QualifiedName

end Locking

import Std.Data.ExtTreeMap

namespace Locking

/-!
Identifiers and the words that have one from the start. A reserved word has a negative value, a
common name a small positive one; both are counted in the order of the lists here.
-/

/-- A small integer that stands for an interned name. -/
structure Identifier where
  value : Int32
deriving DecidableEq, Repr

namespace Identifier

instance : Ord Identifier := ⟨compareOn value⟩

instance : Std.TransOrd Identifier :=
  inferInstanceAs (Std.TransCmp (compareOn value))

instance : Std.LawfulEqOrd Identifier where
  eq_of_compare {left right} equal := by
    cases left
    cases right
    exact congrArg Identifier.mk (Std.LawfulEqOrd.eq_of_compare equal)

def isReserved (id : Identifier) : Bool :=
  decide (id.value < 0)

/-- The text of an identifier that nobody has interned. -/
def placeholder (id : Identifier) : String :=
  "identifier#" ++ toString id.value.toInt

def dump (id : Identifier) : String :=
  "Identifier(" ++ toString id.value.toInt ++ ")"

end Identifier

namespace Vocabulary

/-- Words that an unquoted text cannot use as a name. -/
def reservedWords : List String :=
  ["all", "and", "as", "asc", "begin", "between", "by", "cascade", "check", "commit",
   "constraint", "create", "default", "delete", "desc", "distinct", "drop", "exists", "false",
   "foreign", "from", "full", "group", "having", "if", "in", "index", "inner", "insert", "into",
   "is", "join", "key", "left", "limit", "not", "null", "offset", "on", "or", "order", "outer",
   "primary", "references", "right", "rollback", "select", "set", "table", "true", "unique",
   "update", "using", "values", "where"]

/-- Names in common use, which are names like any other. -/
def commonNames : List String :=
  ["bigint", "binary", "bool", "boolean", "bytea", "bytes", "char", "count", "database",
   "double", "info", "int", "int2", "int4", "int8", "integer", "max", "metadata", "min",
   "precision", "public", "real", "schema", "smallint", "system", "text", "varbinary",
   "varchar"]

/-- The reserved words with their values -1, -2, ... -/
def reserved : List (String × Identifier) :=
  reservedWords.zipIdx.map fun (word, index) => (word, ⟨Int32.ofInt (-(index + 1))⟩)

/-- The common names with their values 1, 2, ... -/
def common : List (String × Identifier) :=
  commonNames.zipIdx.map fun (word, index) => (word, ⟨Int32.ofNat (index + 1)⟩)

def capitals (word : String) : String :=
  String.ofList (word.toList.map Char.toUpper)

def reserved? (word : String) : Option Identifier :=
  reserved.lookup word

/-- The value of the first name that is neither reserved nor common. -/
def firstFree : Int32 := 29

/-- Whether an identifier has had its value from the start. -/
def isPredefined (id : Identifier) : Bool :=
  decide (id.value < firstFree)

end Vocabulary

end Locking

import EntSchema.Entries

/-!
# Type table

Which field builder of ent stands for a primitive type of the model.  The table is data: a type that
it does not name is unmapped, and fields of that type are not declared.
-/

namespace EntSchema

/-- What a primitive type is declared with: a field builder and, if it needs one, a further
argument. -/
structure TypeMapping where
  target : String
  literal? : Option String
  deriving DecidableEq, Repr

/-- The mappings of primitive types, each type once. -/
structure TypeTable where
  entries : List (String × TypeMapping)
  deriving DecidableEq, Repr

namespace TypeTable

def empty : TypeTable := ⟨[]⟩

def lookup? (table : TypeTable) (source : String) : Option TypeMapping :=
  Entries.get? source table.entries

/-- The table with the mapping of one type added or replaced. -/
def insert (table : TypeTable) (source : String) (mapping : TypeMapping) : TypeTable :=
  ⟨Entries.put source mapping table.entries⟩

def size (table : TypeTable) : Nat := table.entries.length

def isEmpty (table : TypeTable) : Bool := table.entries.isEmpty

theorem lookup?_insert (table : TypeTable) (source asked : String) (mapping : TypeMapping) :
    (table.insert source mapping).lookup? asked =
      if asked = source then some mapping else table.lookup? asked :=
  Entries.get?_put ..

/-- The argument of the JSON builder, from which ent infers the Go type. -/
def jsonZeroValue : String := "map[string]interface{}{}"

/-- The table for the primitive types of the model language. -/
def builtin : TypeTable :=
  ⟨[("String", ⟨"String", none⟩), ("Boolean", ⟨"Bool", none⟩), ("Int", ⟨"Int", none⟩),
    ("BigInt", ⟨"Int64", none⟩), ("Float", ⟨"Float", none⟩), ("Decimal", ⟨"Float", none⟩),
    ("DateTime", ⟨"Time", none⟩), ("Json", ⟨"JSON", some jsonZeroValue⟩),
    ("Bytes", ⟨"Bytes", none⟩)]⟩

end TypeTable

end EntSchema

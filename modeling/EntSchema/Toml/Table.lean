import EntSchema.Entries
import EntSchema.Toml.Moment

/-!
# TOML tables

The values of a TOML document, and the rules by which its lines add to its tables.  A table may be
named by a header once.  A header also makes the tables on its way, and those may still be named by
a header of their own; the tables that a dotted key makes may not, and only dotted keys add to
them.  Nothing is added to an inline table once it is closed.
-/

namespace EntSchema.Toml

/-- What made a table: a header that goes through it, a header of its own, a dotted key that goes
through it, or braces.  The whole document counts as one with a header. -/
inductive Origin where
  | implied
  | header
  | dotted
  | inline
  deriving DecidableEq, Repr

/-- A TOML value.  A float is kept as it is written, and an array says whether headers with double
brackets made it.  What begins like an integer and is none is misspelt: it does no harm as long as
nobody asks for it. -/
inductive Value where
  | string (value : String)
  | integer (value : Int)
  | misspelt (text : List Char)
  | float (text : List Char)
  | boolean (value : Bool)
  | datetime (moment : Moment)
  | array (ofTables : Bool) (items : List Value)
  | table (origin : Origin) (entries : List (String × Value))
  deriving Repr

abbrev Table := List (String × Value)

/-! ## Headers -/

/-- A table with the table under one of its keys changed.  A missing one is made; of an array of
tables the last one is changed. -/
def enter (change : Table → Option Table) (key : String) (table : Table) : Option Table :=
  match Entries.get? key table with
  | none => do return Entries.put key (.table .implied (← change [])) table
  | some (.table .inline _) => none
  | some (.table origin entries) => do
    return Entries.put key (.table origin (← change entries)) table
  | some (.array true items) =>
    match items.getLast? with
    | some (.table origin entries) => do
      let last : Value := .table origin (← change entries)
      return Entries.put key (.array true (items.dropLast ++ [last])) table
    | _ => none
  | some _ => none

def enterAll (change : Table → Option Table) : List String → Table → Option Table
  | [] => change
  | key :: path => enter (enterAll change path) key

def defineTable (key : String) (table : Table) : Option Table :=
  match Entries.get? key table with
  | none => some (Entries.put key (.table .header []) table)
  | some (.table .implied entries) => some (Entries.put key (.table .header entries) table)
  | some _ => none

def appendTable (key : String) (table : Table) : Option Table :=
  match Entries.get? key table with
  | none => some (Entries.put key (.array true [.table .header []]) table)
  | some (.array true items) =>
    some (Entries.put key (.array true (items ++ [.table .header []])) table)
  | some _ => none

/-- A document after a header; `doubled` for one with double brackets. -/
def openHeader (doubled : Bool) (keys : List String) (table : Table) : Option Table :=
  match keys.getLast? with
  | none => none
  | some last =>
    enterAll (if doubled then appendTable last else defineTable last) keys.dropLast table

/-! ## Values -/

/-- A table with a value under a dotted key.  The last part of the key has to be new; `mayAdd` says
whether a value may stand in this table itself. -/
def assign (value : Value) : Bool → List String → Table → Option Table
  | _, [], _ => none
  | mayAdd, [key], table =>
    if mayAdd && (Entries.get? key table).isNone then some (Entries.put key value table) else none
  | _, key :: rest, table =>
    match Entries.get? key table with
    | none => do return Entries.put key (.table .dotted (← assign value true rest [])) table
    | some (.table .dotted entries) => do
      return Entries.put key (.table .dotted (← assign value true rest entries)) table
    | some (.table .implied entries) => do
      return Entries.put key (.table .implied (← assign value false rest entries)) table
    | some (.array true items) =>
      match items.getLast? with
      | some (.table origin entries) => do
        let last : Value := .table origin (← assign value false rest entries)
        return Entries.put key (.array true (items.dropLast ++ [last])) table
      | _ => none
    | some _ => none

end EntSchema.Toml

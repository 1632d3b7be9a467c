import EntSchema.Decimal.Shortest
import EntSchema.Entries

/-!
# JSON values

Values as a document holds them.  Numbers keep apart the integers that fit 64 bits, which are exact,
and everything else, which is a double-precision number.  The members of an object stand in the
order of their keys, each key once, whatever order the text had.
-/

namespace EntSchema.Json

/-- A number of a document: an integer from `-2 ^ 63` to `2 ^ 64 - 1`; any other number, and minus
zero, is a float. -/
inductive Number where
  | integer (value : Int)
  | float (value : Decimal.Binary64)
  deriving DecidableEq, Repr

/-- A JSON value.  The members of an object are sorted by their names. -/
inductive Value where
  | null
  | bool (value : Bool)
  | number (value : Number)
  | string (value : String)
  | array (items : List Value)
  | object (members : List (String × Value))
  deriving Repr

/-! ## Equality -/

mutual

def Value.same : Value → Value → Bool
  | .null, .null => true
  | .bool a, .bool b => a == b
  | .number a, .number b => a == b
  | .string a, .string b => a == b
  | .array a, .array b => sameItems a b
  | .object a, .object b => sameMembers a b
  | _, _ => false

def sameItems : List Value → List Value → Bool
  | [], [] => true
  | a :: as, b :: bs => a.same b && sameItems as bs
  | _, _ => false

def sameMembers : List (String × Value) → List (String × Value) → Bool
  | [], [] => true
  | (k, a) :: as, (l, b) :: bs => k == l && a.same b && sameMembers as bs
  | _, _ => false

end

mutual

theorem Value.same_iff (a b : Value) : a.same b = true ↔ a = b := by
  cases a <;> cases b <;> simp [Value.same, sameItems_iff, sameMembers_iff]

theorem sameItems_iff (as bs : List Value) : sameItems as bs = true ↔ as = bs := by
  cases as <;> cases bs <;> simp [sameItems, Value.same_iff, sameItems_iff]

theorem sameMembers_iff (as bs : List (String × Value)) :
    sameMembers as bs = true ↔ as = bs := by
  match as, bs with
  | [], [] => simp [sameMembers]
  | [], _ :: _ => simp [sameMembers]
  | _ :: _, [] => simp [sameMembers]
  | (k, a) :: as, (l, b) :: bs =>
    simp [sameMembers, Value.same_iff a b, sameMembers_iff as bs]

end

instance : DecidableEq Value := fun a b => decidable_of_iff _ (Value.same_iff a b)

/-! ## Members -/

def member? (members : List (String × Value)) (key : String) : Option Value :=
  Entries.get? key members

/-- Members sorted by their keys; of members with one key the last counts. -/
def sortMembers (members : List (String × Value)) : List (String × Value) :=
  members.foldl (fun sorted (key, value) => Entries.putSorted compare key value sorted) []

end EntSchema.Json

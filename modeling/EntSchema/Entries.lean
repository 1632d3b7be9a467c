/-!
# Keyed entries

Finite maps as lists of entries with distinct keys.  `put` keeps the order in which the keys first
came, `putSorted` the order of the keys; either replaces the value of a key that is there already
and leaves the key as it was first spelled.
-/

namespace EntSchema.Entries

variable {κ α : Type}

/-! ## Order of arrival -/

/-- An entry put where its key stands, or at the end when the key is new. -/
def put [DecidableEq κ] (key : κ) (value : α) : List (κ × α) → List (κ × α)
  | [] => [(key, value)]
  | (other, kept) :: rest =>
    if key = other then (other, value) :: rest else (other, kept) :: put key value rest

def get? [DecidableEq κ] (key : κ) : List (κ × α) → Option α
  | [] => none
  | (other, value) :: rest => if key = other then some value else get? key rest

@[simp] theorem get?_nil [DecidableEq κ] (key : κ) : get? key ([] : List (κ × α)) = none := rfl

theorem get?_put [DecidableEq κ] (key asked : κ) (value : α) (entries : List (κ × α)) :
    get? asked (put key value entries) =
      if asked = key then some value else get? asked entries := by
  induction entries with
  | nil => simp [put, get?]
  | cons entry rest ih =>
    obtain ⟨other, kept⟩ := entry
    unfold put
    split
    · subst key
      by_cases h : asked = other <;> simp [get?, h]
    · rename_i hne
      by_cases h : asked = other
      · subst asked
        have : ¬ other = key := fun h => hne h.symm
        simp [get?, this]
      · simp [get?, h, ih]

/-- The keys after `put`: a new key comes last. -/
theorem keys_put [DecidableEq κ] (key : κ) (value : α) (entries : List (κ × α)) :
    (put key value entries).map Prod.fst =
      if key ∈ entries.map Prod.fst then entries.map Prod.fst
      else entries.map Prod.fst ++ [key] := by
  induction entries with
  | nil => simp [put]
  | cons entry rest ih =>
    obtain ⟨other, kept⟩ := entry
    unfold put
    split
    · subst key; simp
    · rename_i hne
      simp only [List.map_cons, ih, List.mem_cons, hne, false_or]
      split <;> simp

/-! ## Order of the keys -/

/-- An entry put at its place among entries sorted by their keys. -/
def putSorted (cmp : κ → κ → Ordering) (key : κ) (value : α) : List (κ × α) → List (κ × α)
  | [] => [(key, value)]
  | (other, kept) :: rest =>
    match cmp key other with
    | .lt => (key, value) :: (other, kept) :: rest
    | .eq => (other, value) :: rest
    | .gt => (other, kept) :: putSorted cmp key value rest

/-- The value of a key that compares equal. -/
def find? (cmp : κ → κ → Ordering) (key : κ) : List (κ × α) → Option α
  | [] => none
  | (other, value) :: rest => if cmp key other = .eq then some value else find? cmp key rest

end EntSchema.Entries

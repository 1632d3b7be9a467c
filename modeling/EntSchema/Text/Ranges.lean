/-!
# Ranges of code points

A property of characters is held as a sorted list of runs.  A run may skip code points evenly,
because the letters of an alphabet that alternates capital and small ones share neither property
with their neighbours.
-/

namespace EntSchema.Text

/-- A run of code points: every `step`-th one from `first` to `last`. -/
structure Run where
  first : Nat
  last : Nat
  step : Nat
  deriving DecidableEq, Repr

def Run.contains (run : Run) (code : Nat) : Bool :=
  run.first ≤ code && code ≤ run.last && (code - run.first) % run.step == 0

/-- Whether one of the runs, sorted by their first code points, contains a code point.  The search
ends at the first run that starts beyond it. -/
def covers : List Run → Nat → Bool
  | [], _ => false
  | run :: runs, code =>
    if code < run.first then false
    else if code ≤ run.last then run.contains code
    else covers runs code

theorem exists_contains_of_covers {runs : List Run} {code : Nat} (h : covers runs code = true) :
    ∃ run ∈ runs, run.contains code = true := by
  induction runs with
  | nil => simp [covers] at h
  | cons run runs ih =>
    unfold covers at h
    split at h
    · simp at h
    · split at h
      · exact ⟨run, List.mem_cons_self, h⟩
      · obtain ⟨other, hmem, hcode⟩ := ih h
        exact ⟨other, List.mem_cons_of_mem _ hmem, hcode⟩

end EntSchema.Text

import EntSchema.Text.Ranges
import Mathlib.Data.List.Chain
import Mathlib.Data.List.TakeWhile

/-!
# Comparing tables of code points

Whether one class of characters lies within another, or shares no character with it, is a question
about two tables.  The tables cover more code points than could be tried one after another, so they
are compared run by run: `covers_of_runsWithin` and `not_covers_of_runsApart` turn what a comparison
of runs has found into a statement about all characters.

The search of a table stops at the first run beyond a code point, so finding all code points of a
table takes that its runs ascend (`covers_of_contains`).
-/

namespace EntSchema.Text

/-! ## One run -/

/-- Whether each code point of a run is one of another run. -/
def Run.isWithin (run other : Run) : Bool :=
  other.first ≤ run.first && run.last ≤ other.last &&
    (run.first - other.first) % other.step == 0 &&
      (run.first == run.last || run.step % other.step == 0)

/-- Whether two runs have no code point in common because one ends before the other starts. -/
def Run.isApart (run other : Run) : Bool :=
  run.last < other.first || other.last < run.first

/-- A run moved by a distance. -/
def Run.moved (run : Run) (distance : Int) : Run :=
  ⟨(run.first + distance).toNat, (run.last + distance).toNat, run.step⟩

variable {run other : Run} {runs others : List Run} {code : Nat}

lemma Run.contains_iff :
    run.contains code = true ↔
      run.first ≤ code ∧ code ≤ run.last ∧ (code - run.first) % run.step = 0 := by
  simp [Run.contains, and_assoc]

lemma Run.contains_of_isWithin (h : run.isWithin other = true)
    (hcode : run.contains code = true) : other.contains code = true := by
  obtain ⟨hfirst, hlast, hstep⟩ := contains_iff.1 hcode
  simp only [isWithin, Bool.and_eq_true, Bool.or_eq_true, decide_eq_true_eq, beq_iff_eq] at h
  obtain ⟨⟨⟨hbelow, habove⟩, haligned⟩, hsteps⟩ := h
  refine contains_iff.2 ⟨by omega, by omega, ?_⟩
  have hoffset : code - other.first = (code - run.first) + (run.first - other.first) := by omega
  have hdvd : other.step ∣ code - run.first := by
    obtain hsingle | hmultiple := hsteps
    · have hzero : code - run.first = 0 := by omega
      rw [hzero]
      exact Nat.dvd_zero _
    · exact Nat.dvd_trans (Nat.dvd_of_mod_eq_zero hmultiple) (Nat.dvd_of_mod_eq_zero hstep)
  rw [hoffset]
  exact Nat.mod_eq_zero_of_dvd (Nat.dvd_add hdvd (Nat.dvd_of_mod_eq_zero haligned))

lemma Run.not_contains_of_isApart (h : run.isApart other = true)
    (hcode : run.contains code = true) : other.contains code = false := by
  obtain ⟨hfirst, hlast, -⟩ := contains_iff.1 hcode
  simp only [isApart, Bool.or_eq_true, decide_eq_true_eq] at h
  refine Bool.eq_false_iff.2 fun hother => ?_
  obtain ⟨hfirst', hlast', -⟩ := contains_iff.1 hother
  omega

lemma Run.contains_moved {distance : Int} (h : 0 ≤ run.first + distance)
    (hcode : run.contains code = true) :
    (run.moved distance).contains (code + distance).toNat = true := by
  obtain ⟨hfirst, hlast, hstep⟩ := contains_iff.1 hcode
  have hoffset : ((code : Int) + distance).toNat - (run.first + distance).toNat =
      code - run.first := by omega
  refine contains_iff.2 ⟨?_, ?_, ?_⟩
  · simp only [moved]
    omega
  · simp only [moved]
    omega
  · simp only [moved]
    rw [hoffset]
    exact hstep

/-! ## Tables -/

/-- A run that is not empty ends before the next one starts. -/
def Run.Precedes (run next : Run) : Prop :=
  run.first ≤ run.last ∧ run.last < next.first

instance (run next : Run) : Decidable (run.Precedes next) := inferInstanceAs (Decidable (_ ∧ _))

instance : IsTrans Run Run.Precedes where
  trans a b c hab hbc := by
    obtain ⟨hab, hgap⟩ := hab
    obtain ⟨hbc, hgap'⟩ := hbc
    exact ⟨hab, by omega⟩

/-- Whether the runs of a table stand in the order of their code points. -/
def Ascend (runs : List Run) : Prop :=
  runs.IsChain Run.Precedes

instance (runs : List Run) : Decidable (Ascend runs) :=
  inferInstanceAs (Decidable (List.IsChain _ _))

/-- The search finds what stands in a run of the table. -/
lemma covers_of_contains (h : Ascend runs) (hrun : run ∈ runs)
    (hcode : run.contains code = true) : covers runs code = true := by
  have hpairs : runs.Pairwise Run.Precedes := List.isChain_iff_pairwise.1 h
  obtain ⟨hfirst, hlast, -⟩ := Run.contains_iff.1 hcode
  induction runs with
  | nil => exact absurd hrun List.not_mem_nil
  | cons head rest ih =>
    obtain ⟨hhead, hrest⟩ := List.pairwise_cons.1 hpairs
    rw [covers]
    obtain rfl | hlater := List.mem_cons.1 hrun
    · rw [if_neg (by omega), if_pos hlast]
      exact hcode
    · obtain ⟨hnonempty, hgap⟩ := hhead run hlater
      rw [if_neg (by omega), if_neg (by omega)]
      exact ih (List.isChain_iff_pairwise.2 hrest) hlater hrest

/-- Whether each run of a table lies in a run of another one.  Both are gone through once, so they
have to ascend for that to be found. -/
def runsWithin : List Run → List Run → Bool
  | [], _ => true
  | run :: runs, others =>
    match others.dropWhile (·.last < run.last) with
    | [] => false
    | other :: rest => run.isWithin other && runsWithin runs (other :: rest)

lemma exists_isWithin (h : runsWithin runs others = true) (hrun : run ∈ runs) :
    ∃ other ∈ others, run.isWithin other = true := by
  induction runs generalizing others with
  | nil => exact absurd hrun List.not_mem_nil
  | cons head rest ih =>
    rw [runsWithin] at h
    have hsub : (others.dropWhile (·.last < head.last)).Sublist others :=
      List.dropWhile_sublist _
    cases hdrop : others.dropWhile (·.last < head.last) with
    | nil =>
      rw [hdrop] at h
      exact absurd h (by simp)
    | cons other later =>
      rw [hdrop] at h hsub
      obtain ⟨hhead, hrest⟩ := Bool.and_eq_true_iff.1 h
      obtain rfl | hlater := List.mem_cons.1 hrun
      · exact ⟨other, hsub.subset List.mem_cons_self, hhead⟩
      · obtain ⟨found, hfound, hwithin⟩ := ih hrest hlater
        exact ⟨found, hsub.subset hfound, hwithin⟩

lemma covers_of_runsWithin (h : runsWithin runs others = true) (hothers : Ascend others)
    (hcode : covers runs code = true) : covers others code = true := by
  obtain ⟨run, hrun, hcontains⟩ := exists_contains_of_covers hcode
  obtain ⟨other, hother, hwithin⟩ := exists_isWithin h hrun
  exact covers_of_contains hothers hother (Run.contains_of_isWithin hwithin hcontains)

/-- Whether no run of a table meets a run of another one, found in one walk through both. -/
def runsApart : List Run → List Run → Bool
  | [], _ => true
  | run :: runs, others =>
    match others.dropWhile (·.last < run.first) with
    | [] => true
    | other :: rest => decide (run.last < other.first) && runsApart runs (other :: rest)

lemma mem_dropWhile_of_le {bound : Nat} (hother : other ∈ others) (h : bound ≤ other.last) :
    other ∈ others.dropWhile (·.last < bound) := by
  have hsplit : other ∈ others.takeWhile (·.last < bound) ++ others.dropWhile (·.last < bound) := by
    rwa [List.takeWhile_append_dropWhile]
  rcases List.mem_append.1 hsplit with hbefore | hbehind
  · have hshort := List.mem_takeWhile_imp hbefore
    rw [decide_eq_true_eq] at hshort
    omega
  · exact hbehind

lemma not_contains_of_runsApart (h : runsApart runs others = true) (hruns : Ascend runs)
    (hothers : Ascend others) (hrun : run ∈ runs) (hother : other ∈ others)
    (hcode : run.contains code = true) : other.contains code = false := by
  refine Bool.eq_false_iff.2 fun hcode' => ?_
  obtain ⟨hfirst, hlast, -⟩ := Run.contains_iff.1 hcode
  obtain ⟨hfirst', hlast', -⟩ := Run.contains_iff.1 hcode'
  induction runs generalizing others with
  | nil => exact absurd hrun List.not_mem_nil
  | cons head rest ih =>
    obtain ⟨hhead, hrest⟩ := List.pairwise_cons.1 (List.isChain_iff_pairwise.1 hruns)
    -- What the walk leaves behind ends before any code point that is still to come.
    have hreached : head.first ≤ code := by
      rcases List.mem_cons.1 hrun with rfl | hlater
      · exact hfirst
      · obtain ⟨hnonempty, hgap⟩ := hhead run hlater
        omega
    have hkept : other ∈ others.dropWhile (·.last < head.first) :=
      mem_dropWhile_of_le hother (by omega)
    have hascend : Ascend (others.dropWhile (·.last < head.first)) :=
      hothers.suffix (List.dropWhile_suffix _)
    rw [runsApart] at h
    cases hdrop : others.dropWhile (·.last < head.first) with
    | nil =>
      rw [hdrop] at hkept
      exact absurd hkept List.not_mem_nil
    | cons next later =>
      rw [hdrop] at h hkept hascend
      obtain ⟨hgap, happart⟩ := Bool.and_eq_true_iff.1 h
      rw [decide_eq_true_eq] at hgap
      have hnext : next.first ≤ other.first := by
        rcases List.mem_cons.1 hkept with rfl | hlater
        · exact Nat.le_refl _
        · obtain ⟨hnonempty, hbefore⟩ :=
            (List.pairwise_cons.1 (List.isChain_iff_pairwise.1 hascend)).1 other hlater
          omega
      rcases List.mem_cons.1 hrun with rfl | hlater
      · omega
      · exact ih happart (List.isChain_iff_pairwise.2 hrest) hascend hlater hkept

/-- Tables that are apart share no code point. -/
lemma not_covers_of_runsApart (h : runsApart runs others = true) (hruns : Ascend runs)
    (hothers : Ascend others) (hcode : covers runs code = true) : covers others code = false := by
  refine Bool.eq_false_iff.2 fun hother => ?_
  obtain ⟨run, hrun, hcontains⟩ := exists_contains_of_covers hcode
  obtain ⟨other, hmem, hcontains'⟩ := exists_contains_of_covers hother
  have hnot := not_contains_of_runsApart h hruns hothers hrun hmem hcontains
  rw [hnot] at hcontains'
  exact absurd hcontains' (by simp)

end EntSchema.Text

import Mathlib.Data.List.Forall2

/-!
# Traversals that stop at the first fault

Declaring the fields of an entity and making the files of a document both go through a list and
stop at the first item that fails.  Two facts describe such a traversal completely: it fails with
the fault of the first item that has one (`fault?_mapM`), and it gives a list exactly when every
item gives the value at its place (`mapM_eq_ok_iff`).
-/

namespace EntSchema

variable {α β ε : Type}

/-- The fault of a computation that fails. -/
def fault? : Except ε α → Option ε
  | .error fault => some fault
  | .ok _ => none

@[simp] lemma fault?_ok (value : α) : fault? (.ok value : Except ε α) = none := rfl

@[simp] lemma fault?_error (fault : ε) : fault? (.error fault : Except ε α) = some fault := rfl

lemma fault?_eq_some_iff {result : Except ε α} {fault : ε} :
    fault? result = some fault ↔ result = .error fault := by
  cases result <;> simp

lemma fault?_eq_none_iff {result : Except ε α} :
    fault? result = none ↔ ∃ value, result = .ok value := by
  cases result <;> simp

/-- What is done with a value afterwards, when it cannot fail, leaves the fault alone. -/
lemma fault?_bind_pure (result : Except ε α) (f : α → β) :
    fault? (result >>= fun value => pure (f value)) = fault? result := by
  cases result <;> rfl

lemma bind_eq_ok_iff {result : Except ε α} {f : α → Except ε β} {value : β} :
    (result >>= f) = .ok value ↔ ∃ a, result = .ok a ∧ f a = .ok value := by
  cases result with
  | error fault => simp [bind, Except.bind]
  | ok a => simp [bind, Except.bind]

lemma bind_pure_eq_ok_iff {result : Except ε α} {f : α → β} {value : β} :
    (result >>= fun a => pure (f a)) = .ok value ↔ ∃ a, result = .ok a ∧ f a = value := by
  simp [bind_eq_ok_iff, pure, Except.pure]

lemma mapError_eq_ok_iff {ε' : Type} {f : ε → ε'} {result : Except ε α} {a : α} :
    result.mapError f = .ok a ↔ result = .ok a := by
  cases result <;> simp [Except.mapError]

/-- A traversal fails with the fault of the first item that has one. -/
lemma fault?_mapM (f : α → Except ε β) (items : List α) :
    fault? (items.mapM f) = items.findSome? fun item => fault? (f item) := by
  induction items with
  | nil => rfl
  | cons item rest ih =>
    rw [List.mapM_cons, List.findSome?_cons]
    cases hitem : f item with
    | error fault => rfl
    | ok value =>
      have hrest := fault?_bind_pure (rest.mapM f) (value :: ·)
      rw [ih] at hrest
      exact hrest

/-- A traversal gives the values of the items, each at its place. -/
lemma mapM_eq_ok_iff {f : α → Except ε β} {items : List α} {values : List β} :
    items.mapM f = .ok values ↔
      List.Forall₂ (fun item value => f item = .ok value) items values := by
  induction items generalizing values with
  | nil => simp [pure, Except.pure, eq_comm]
  | cons item rest ih =>
    rw [List.mapM_cons, List.forall₂_cons_left_iff]
    cases hitem : f item with
    | error fault => simp [bind, Except.bind]
    | ok value =>
      have hrest : (Except.ok value >>= fun v => rest.mapM f >>= fun vs => pure (v :: vs)) =
          (rest.mapM f >>= fun vs => pure (value :: vs)) := rfl
      rw [hrest, bind_pure_eq_ok_iff]
      constructor
      · rintro ⟨others, hothers, rfl⟩
        exact ⟨value, others, rfl, ih.1 hothers, rfl⟩
      · rintro ⟨first, others, hfirst, hothers, rfl⟩
        cases hfirst
        exact ⟨others, ih.2 hothers, rfl⟩

/-- A traversal looks at nothing but the outcomes of its items. -/
lemma mapM_congr {f g : α → Except ε β} {items : List α}
    (h : ∀ item ∈ items, f item = g item) : items.mapM f = items.mapM g := by
  induction items with
  | nil => rfl
  | cons item rest ih =>
    rw [List.forall_mem_cons] at h
    rw [List.mapM_cons, List.mapM_cons, h.1, ih h.2]

end EntSchema

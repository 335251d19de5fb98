import PagedList.Proofs.StoreRun

/-! The end of a store. Once it was told to stop it does not go on, and the next thing that it is asked
for tears it down. Then its list is thrown away, and it takes no notice of what happens to it. -/
namespace PagedList
namespace Store

variable {ε F : Type} [Entity ε] [EmptyCollection F]

theorem isTornDown_new (loader : Loader ε F) (settings : ListSettings) :
    (new loader settings : Store ε F).isTornDown = false := by
  cases hi : settings.initImmediately <;> simp only [new, hi] <;> rfl

theorem tornDown_new (loader : Loader ε F) (settings : ListSettings) :
    (new loader settings : Store ε F).tornDown = false :=
  (Bool.or_eq_false_iff.1 (isTornDown_new loader settings)).1

theorem isTornDown_happen_eq (s : Store ε F) {e : Event ε F} (ht : e ≠ .tearDown) (hc : e ≠ .cancel) :
    (s.happen e).isTornDown = s.isTornDown := by
  have hdispatch : ∀ (t : Store ε F) (m : Message ε F), (t.dispatch m).isTornDown = t.isTornDown :=
    fun t m => by
      unfold dispatch
      split
      · rename_i h
        rw [isTornDown_tearDown, h]
      · exact isTornDown_apply t m
  cases e with
  | perform operation => simp only [happen, perform_eq_dispatch, hdispatch]
  | tearDown => exact absurd rfl ht
  | cancel => exact absurd rfl hc
  | wait ms => rfl
  | respond call outcome =>
    simp only [happen, respond]
    split <;> rfl
  | finish place =>
    simp only [happen, finish]
    split <;> rfl
  | abandon place =>
    simp only [happen, abandon]
    split <;> rfl
  | take =>
    simp only [happen, take]
    split
    · exact hdispatch _ _
    · rfl

theorem isTornDown_happen {s : Store ε F} (h : s.isTornDown = true) (e : Event ε F) :
    (s.happen e).isTornDown = true := by
  by_cases ht : e = .tearDown
  · rw [ht]
    exact isTornDown_tearDown s
  · by_cases hc : e = .cancel
    · simp [hc, happen, cancel, isTornDown]
    · exact (s.isTornDown_happen_eq ht hc).trans h

theorem isTornDown_of_happen {s : Store ε F} {e : Event ε F}
    (h : (s.happen e).isTornDown = false) : s.isTornDown = false := by
  cases hs : s.isTornDown with
  | false => rfl
  | true => simp [isTornDown_happen hs e] at h

@[simp] theorem tornDown_tearDown (s : Store ε F) : s.tearDown.tornDown = true := by
  unfold tearDown
  split
  · assumption
  · simp

@[simp] theorem now_tearDown (s : Store ε F) : s.tearDown.now = s.now := by
  unfold tearDown
  split
  · rfl
  · simp

/-- A store that was torn down takes no notice of what happens to it. -/
theorem happen_of_tornDown {s : Store ε F} (h : s.tornDown = true) (e : Event ε F) :
    s.happen e =
      { s with
        now := (s.happen e).now
        queue := (s.happen e).queue
        tasks := (s.happen e).tasks
        cancelled := (s.happen e).cancelled } := by
  have hdispatch : ∀ (t : Store ε F) (m : Message ε F), t.tornDown = true → t.dispatch m = t :=
    fun t m ht => by simp [dispatch, tearDown, isTornDown, ht]
  cases e with
  | perform operation =>
    simp only [happen]
    rw [perform_eq_dispatch, hdispatch s _ h]
  | tearDown =>
    simp only [happen]
    rw [tearDown, if_pos h]
  | take =>
    simp only [happen, take]
    split
    · rw [hdispatch _ _ (by exact h)]
    · rfl
  | cancel | wait | respond | finish | abandon => exact happen_eq_of_isOutside s rfl

theorem run_of_tornDown {s : Store ε F} (h : s.tornDown = true) (es : List (Event ε F)) :
    s.run es =
      { s with
        now := (s.run es).now
        queue := (s.run es).queue
        tasks := (s.run es).tasks
        cancelled := (s.run es).cancelled } := by
  induction es generalizing s with
  | nil => rfl
  | cons e es ih =>
    have hnext := happen_of_tornDown h e
    have hframe : ∀ t : Store ε F,
        t = { s.happen e with
          now := t.now, queue := t.queue, tasks := t.tasks, cancelled := t.cancelled } →
        t = { s with
          now := t.now, queue := t.queue, tasks := t.tasks, cancelled := t.cancelled } :=
      fun t ht => by rwa [hnext] at ht
    exact hframe _ (ih (by rw [hnext]; exact h))

theorem state_of_tornDown_dispatch {s : Store ε F} (h : s.tornDown = false) {m : Message ε F}
    (ht : (s.dispatch m).tornDown = true) : (s.dispatch m).state = s.state.tearDown := by
  by_cases hstop : s.isTornDown = true
  · rw [dispatch, if_pos hstop, tearDown_state, h]
    rfl
  · rw [dispatch, if_neg hstop, apply_tornDown, h] at ht
    cases ht

theorem state_of_tornDown_happen {s : Store ε F} (h : s.tornDown = false) {e : Event ε F}
    (ht : (s.happen e).tornDown = true) : (s.happen e).state = s.state.tearDown := by
  cases e with
  | perform operation =>
    simp only [happen, perform_eq_dispatch] at ht ⊢
    exact state_of_tornDown_dispatch h ht
  | tearDown =>
    show s.tearDown.state = s.state.tearDown
    rw [tearDown_state, h]
    rfl
  | take =>
    simp only [happen, take] at ht ⊢
    split at ht
    · rename_i m rest _
      exact state_of_tornDown_dispatch (s := { s with queue := rest }) h ht
    · simp [h] at ht
  | cancel | wait | respond | finish | abandon =>
    rw [happen_eq_of_isOutside s rfl] at ht
    simp [h] at ht

end Store
end PagedList

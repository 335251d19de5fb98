import PagedList.Proofs.StoreRun
import PagedList.Session

/-! Sessions as runs. However a session is driven, its store only goes through what can happen to a
store at any time, so what holds after every run of a store holds in every session. -/
namespace PagedList

variable {ε F : Type} [Entity ε] [EmptyCollection F]

/-- Whether a run leads from one store to another. -/
def Store.Reaches (s t : Store ε F) : Prop := ∃ es : List (Event ε F), s.run es = t

namespace Store.Reaches

theorem refl (s : Store ε F) : s.Reaches s := ⟨[], rfl⟩

theorem happen (s : Store ε F) (e : Event ε F) : s.Reaches (s.happen e) := ⟨[e], rfl⟩

theorem trans {s t u : Store ε F} (h : s.Reaches t) (h' : t.Reaches u) : s.Reaches u := by
  obtain ⟨es, rfl⟩ := h
  obtain ⟨fs, rfl⟩ := h'
  exact ⟨es ++ fs, run_append s es fs⟩

end Store.Reaches

theorem Store.Drifts.reaches {s t : Store ε F} (h : s.Drifts t) : s.Reaches t := by
  induction h with
  | refl => exact .refl _
  | step e _ _ ih => exact (Store.Reaches.happen _ e).trans ih

namespace Session

omit [EmptyCollection F] in
theorem perform_now (store : Store ε F) (action : Action ε) :
    (perform store action).now = store.now := by
  cases action with
  | respond call outcome =>
    show (store.respond call outcome).1.now = store.now
    unfold Store.respond
    split <;> rfl
  | cancel => rfl

theorem drifts_perform (store : Store ε F) (action : Action ε) :
    store.Drifts (perform store action) := by
  cases action with
  | respond call outcome => exact .step (.respond call outcome) rfl (.refl _)
  | cancel => exact .step .cancel rfl (.refl _)

omit [EmptyCollection F] in
theorem runDue_eq (s : Session ε F) :
    s.runDue =
      { s with
        store := ((s.agenda.filter fun e => e.1 ≤ s.now).foldl
          (fun store e => perform store e.2) s.store).runTasks
        agenda := s.agenda.filter fun e => !(e.1 ≤ s.now) } := by
  simp only [runDue, List.partition_eq_filter_filter]
  rfl

theorem drifts_foldl_perform (store : Store ε F) (due : List (Nat × Action ε)) :
    store.Drifts (due.foldl (fun store e => perform store e.2) store) := by
  induction due generalizing store with
  | nil => exact .refl store
  | cons e due ih => exact (drifts_perform store e.2).trans (ih (perform store e.2))

omit [EmptyCollection F] in
theorem now_foldl_perform (store : Store ε F) (due : List (Nat × Action ε)) :
    (due.foldl (fun store e => perform store e.2) store).now = store.now := by
  induction due generalizing store with
  | nil => rfl
  | cons e due ih => exact (ih (perform store e.2)).trans (perform_now store e.2)

theorem drifts_runDue (s : Session ε F) : s.store.Drifts s.runDue.store := by
  rw [runDue_eq]
  exact (drifts_foldl_perform s.store _).trans (Store.drifts_runTasks _)

theorem reaches_runDue (s : Session ε F) : s.store.Reaches s.runDue.store := s.drifts_runDue.reaches

omit [EmptyCollection F] in
theorem now_runDue (s : Session ε F) : s.runDue.now = s.now :=
  now_foldl_perform s.store _

theorem drifts_setNow (s : Session ε F) {now : Nat} (h : s.now ≤ now) :
    s.store.Drifts (s.setNow now).store := by
  have hnow : s.store.now + (now - s.now) = now := Nat.add_sub_cancel' h
  refine .step (.wait (now - s.now)) rfl ?_
  simpa [Store.happen, setNow, hnow] using Store.Drifts.refl (s.setNow now).store

theorem drifts_setNow_runDue (s : Session ε F) {now : Nat} (h : s.now ≤ now) :
    s.store.Drifts (s.setNow now).runDue.store :=
  (s.drifts_setNow h).trans (s.setNow now).drifts_runDue

theorem drifts_passTime (fuel : Nat) (s : Session ε F) {deadline : Nat} (h : s.now ≤ deadline) :
    s.store.Drifts (passTime fuel s deadline).store := by
  induction fuel generalizing s with
  | zero => exact s.drifts_setNow_runDue h
  | succ fuel ih =>
    unfold passTime
    split
    · rename_i due _
      split
      · rename_i hdue
        refine (s.drifts_setNow_runDue (Nat.le_max_right due s.now)).trans (ih _ ?_)
        rw [now_runDue]
        exact Nat.max_le.2 ⟨hdue, h⟩
      · exact s.drifts_setNow h
    · exact s.drifts_setNow h

theorem reaches_advance (s : Session ε F) (ms : Nat) : s.store.Reaches (s.advance ms).store :=
  (drifts_passTime _ s (Nat.le_add_right s.now ms)).reaches

theorem reaches_receive? {s t : Store ε F} {more : Bool} (h : s.receive? = some (t, more)) :
    s.Reaches t := by
  cases more with
  | true =>
    rw [(Store.receive?_eq_true h).2]
    exact .happen s .take
  | false =>
    rw [(Store.receive?_eq_false h).2]
    exact .happen s .tearDown

theorem reaches_awaitMessage (fuel : Nat) (s : Session ε F) :
    s.store.Reaches (awaitMessage fuel s).1.store := by
  induction fuel generalizing s with
  | zero => exact .refl s.store
  | succ fuel ih =>
    unfold awaitMessage
    split
    · rename_i h
      exact reaches_receive? h
    · split
      · rename_i due _
        have hnext := s.drifts_setNow_runDue (Nat.le_max_right due s.now)
        exact hnext.reaches.trans (ih _)
      · exact .refl s.store

theorem reaches_awaitNext (s : Session ε F) : s.store.Reaches s.awaitNext.1.store := by
  unfold awaitNext
  split
  · exact s.reaches_runDue.trans (reaches_awaitMessage _ _)
  · exact reaches_awaitMessage 1 s

theorem reaches_drive (wanted : Store ε F → Bool) (began fuel : Nat) (s : Session ε F) :
    s.store.Reaches (drive wanted began fuel s).1.store := by
  induction fuel generalizing s with
  | zero => exact .refl s.store
  | succ fuel ih =>
    unfold drive
    split
    · have hnext := s.reaches_awaitNext
      split <;> rename_i h <;> rw [h] at hnext
      · exact hnext.trans (ih _)
      · exact hnext
      · exact hnext
    · exact .refl s.store

theorem reaches_settle (s : Session ε F) : s.store.Reaches s.settle.1.store :=
  (reaches_drive Store.isBusy s.now s.messageBound s).trans
    (drive Store.isBusy s.now s.messageBound s).1.reaches_runDue

theorem reaches_runToEnd (s : Session ε F) : s.store.Reaches s.runToEnd.1.store :=
  (reaches_drive (fun _ => true) s.now s.messageBound s).trans
    (drive (fun _ => true) s.now s.messageBound s).1.reaches_runDue

theorem reaches_nextEvent (s : Session ε F) : s.store.Reaches s.nextEvent.1.store := by
  have hnext := s.reaches_awaitNext
  unfold nextEvent
  split <;> rename_i h <;> rw [h] at hnext
  · exact hnext.trans (reaches_runDue _)
  · exact hnext

theorem reaches_onStore (s : Session ε F) (operation : Operation ε F) :
    s.store.Reaches (s.onStore (·.perform operation)).store :=
  (Store.Reaches.happen s.store (.perform operation)).trans
    ({ s with store := s.store.perform operation } : Session ε F).reaches_runDue

end Session
end PagedList

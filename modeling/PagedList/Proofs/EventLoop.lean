import PagedList.Game
import PagedList.Proofs.Ending
import PagedList.Proofs.SessionRun

/-! Waiting until nothing is outstanding, in whatever order things come. A list is idle whenever the
waiting ends; but a store that is stopped leaves the messages in its queue, and those still count as
outstanding. -/
namespace PagedList
namespace Store

variable {ε F : Type} [Entity ε]

theorem isBusy_eq_false_iff {s : Store ε F} :
    s.isBusy = false ↔ s.state.isLoading = false ∧ s.state.pending = none ∧ s.queue = [] := by
  simp [isBusy, ListState.hasPendingDebounce, and_assoc]

theorem isBusy_of_queue {s : Store ε F} (h : s.queue ≠ []) : s.isBusy = true := by
  simp [isBusy, h]

variable [EmptyCollection F]

/-- How the waiting may go: at any time things happen outside, or the next message is applied if
there is one, or a store that was told to stop is torn down. `n` counts the messages. -/
inductive Settles : Nat → Store ε F → Store ε F → Prop
  | idle {s} (h : s.isBusy = false) : Settles 0 s s
  | meanwhile {n s t} (e : Event ε F) (he : e.isOutside = true) (h : Settles n (s.happen e) t) :
    Settles n s t
  | taken {n s t} (hq : s.queue ≠ []) (h : Settles n s.take t) : Settles (n + 1) s t
  | stopped {s} (hb : s.isBusy = true) (ht : s.isTornDown = true) : Settles 0 s s.tearDown

theorem Settles.isTornDown_of_end {n : Nat} {s t : Store ε F} (h : Settles n s t)
    (ht : t.isTornDown = false) : s.isTornDown = false := by
  induction h with
  | idle => exact ht
  | meanwhile e _ _ ih => exact isTornDown_of_happen (ih ht)
  | taken _ _ ih => exact isTornDown_of_happen (e := .take) (ih ht)
  | stopped => simp [isTornDown_tearDown] at ht

theorem Drifts.settles {n : Nat} {s t u : Store ε F} (h : s.Drifts t) (ht : Settles n t u) :
    Settles n s u := by
  induction h with
  | refl => exact ht
  | step e he _ ih => exact .meanwhile e he (ih ht)

theorem state_happen_of_isOutside (s : Store ε F) {e : Event ε F} (he : e.isOutside = true) :
    (s.happen e).state = s.state := by
  rw [happen_eq_of_isOutside s he]

theorem queue_happen_of_isOutside (s : Store ε F) {e : Event ε F} (he : e.isOutside = true) :
    s.queue <+: (s.happen e).queue := by
  cases e with
  | perform | tearDown | take => cases he
  | cancel | wait => exact List.prefix_rfl
  | respond call outcome =>
    show s.queue <+: (s.respond call outcome).1.queue
    unfold respond
    split <;> exact List.prefix_rfl
  | finish place =>
    show s.queue <+: (s.finish place).queue
    unfold finish
    split
    · exact List.prefix_append _ _
    · exact List.prefix_rfl
  | abandon place =>
    show s.queue <+: (s.abandon place).queue
    unfold abandon
    split <;> exact List.prefix_rfl

/-- What is outstanding is not over before the owner has heard of it. -/
theorem isBusy_happen_of_isOutside {s : Store ε F} (hs : s.isBusy = true) {e : Event ε F}
    (he : e.isOutside = true) : (s.happen e).isBusy = true := by
  cases h : (s.happen e).isBusy with
  | true => rfl
  | false =>
    obtain ⟨hloading, hpending, hqueue⟩ := isBusy_eq_false_iff.1 h
    rw [state_happen_of_isOutside s he] at hloading hpending
    have hempty : s.queue = [] := List.prefix_nil.1 (hqueue ▸ s.queue_happen_of_isOutside he)
    rw [isBusy_eq_false_iff.2 ⟨hloading, hpending, hempty⟩] at hs
    cases hs

theorem Drifts.isBusy {s t : Store ε F} (h : s.Drifts t) (hs : s.isBusy = true) :
    t.isBusy = true :=
  h.induction (P := fun u => u.isBusy = true) (fun _ _ he hu => isBusy_happen_of_isOutside hu he) hs

/-- The list of a store that was torn down is idle. -/
def Closed (s : Store ε F) : Prop :=
  s.tornDown = true → s.state.isLoading = false ∧ s.state.pending = none

namespace Closed

variable {s : Store ε F}

theorem happen (hs : s.Closed) (e : Event ε F) : (s.happen e).Closed := by
  intro ht
  cases hold : s.tornDown with
  | true =>
    rw [happen_of_tornDown hold e]
    exact hs hold
  | false =>
    rw [state_of_tornDown_happen hold ht]
    exact ⟨rfl, rfl⟩

theorem run (hs : s.Closed) (es : List (Event ε F)) : (s.run es).Closed :=
  run_induction (fun _ e hs => hs.happen e) hs es

/-- Whenever the waiting ends, the list is idle, and what is still outstanding are messages to a
store that was torn down. -/
theorem settles (hs : s.Closed) {n : Nat} {t : Store ε F} (h : Settles n s t) :
    t.state.isLoading = false ∧ t.state.pending = none ∧ (t.isBusy = true → t.tornDown = true) := by
  induction h with
  | idle h =>
    obtain ⟨hloading, hpending, -⟩ := isBusy_eq_false_iff.1 h
    exact ⟨hloading, hpending, fun hb => by simp [h] at hb⟩
  | meanwhile e _ _ ih => exact ih (hs.happen e)
  | taken _ _ ih => exact ih (hs.happen .take)
  | stopped _ _ =>
    obtain ⟨hloading, hpending⟩ := hs.happen .tearDown (tornDown_tearDown _)
    exact ⟨hloading, hpending, fun _ => tornDown_tearDown _⟩

end Closed

theorem closed_new (loader : Loader ε F) (settings : ListSettings) :
    (new loader settings : Store ε F).Closed := by
  intro h
  simp [tornDown_new] at h

end Store

namespace Session

variable {ε F : Type} [Entity ε] [EmptyCollection F]

theorem drifts_of_awaitMessage {fuel : Nat} {s t : Session ε F} {more : Bool}
    (h : awaitMessage fuel s = (t, some more)) :
    ∃ u : Store ε F, s.store.Drifts u ∧ u.receive? = some (t.store, more) := by
  induction fuel generalizing s with
  | zero => cases h
  | succ fuel ih =>
    unfold awaitMessage at h
    split at h
    · rename_i store more' hreceive
      cases h
      exact ⟨s.store, .refl _, hreceive⟩
    · split at h
      · rename_i due _
        obtain ⟨u, hdrifts, hreceive⟩ := ih h
        exact ⟨u, (s.drifts_setNow_runDue (Nat.le_max_right due s.now)).trans hdrifts, hreceive⟩
      · cases h

theorem drifts_of_awaitNext {s t : Session ε F} {more : Bool} (h : s.awaitNext = (t, some more)) :
    ∃ u : Store ε F, s.store.Drifts u ∧ u.receive? = some (t.store, more) := by
  unfold awaitNext at h
  split at h
  · obtain ⟨u, hdrifts, hreceive⟩ := drifts_of_awaitMessage h
    exact ⟨u, s.drifts_runDue.trans hdrifts, hreceive⟩
  · exact drifts_of_awaitMessage h

/-- Whatever the agenda of a session is, its store settles in one of the ways in which it may. -/
theorem settles_of_drive {began fuel : Nat} {s t : Session ε F} {more : Bool} {ms : Nat}
    (h : drive Store.isBusy began fuel s = (t, .ended more ms)) :
    ∃ n ≤ fuel, s.store.Settles n t.store := by
  induction fuel generalizing s with
  | zero => cases h
  | succ fuel ih =>
    unfold drive at h
    split at h
    · rename_i hbusy
      split at h
      · rename_i next hnext
        obtain ⟨u, hdrifts, hreceive⟩ := drifts_of_awaitNext hnext
        obtain ⟨hqueue, htake⟩ := Store.receive?_eq_true hreceive
        obtain ⟨n, hle, hsettles⟩ := ih h
        rw [htake] at hsettles
        exact ⟨n + 1, Nat.succ_le_succ hle, hdrifts.settles (.taken hqueue hsettles)⟩
      · rename_i next hnext
        cases h
        obtain ⟨u, hdrifts, hreceive⟩ := drifts_of_awaitNext hnext
        obtain ⟨hstop, htearDown⟩ := Store.receive?_eq_false hreceive
        rw [htearDown]
        exact ⟨0, Nat.zero_le _, hdrifts.settles (.stopped (hdrifts.isBusy hbusy) hstop)⟩
      · cases h
    · rename_i hidle
      cases h
      exact ⟨0, Nat.zero_le _, .idle (Bool.not_eq_true _ ▸ hidle)⟩

theorem settles_of_settle {s t : Session ε F} {more : Bool} {ms : Nat}
    (h : s.settle = (t, .ended more ms)) :
    ∃ n ≤ s.messageBound, ∃ u : Session ε F, s.store.Settles n u.store ∧ t = u.runDue := by
  cases hdrive : drive Store.isBusy s.now s.messageBound s with
  | mk u waited =>
    simp only [settle, hdrive] at h
    cases h
    obtain ⟨n, hle, hsettles⟩ := settles_of_drive hdrive
    exact ⟨n, hle, u, hsettles, rfl⟩

/-- However a store is used and whatever happens while its owner waits until nothing is outstanding:
when the waiting ends, no load is awaited and no filters wait. The store is busy then exactly if it
was told to stop and messages are left in its queue. -/
theorem busy_after_settling_iff (loader : Loader ε F) (settings : ListSettings)
    (es : List (Event ε F)) :
    let s : Store ε F := (Store.new loader settings).run es
    (∀ n t, s.Settles n t →
      t.state.isLoading = false ∧ t.state.pending = none ∧
        (t.isBusy = true ↔ t.isTornDown = true ∧ t.queue ≠ [])) ∧
    ∀ agenda watchers t more ms,
      (⟨s, false, agenda, watchers⟩ : Session ε F).settle = (t, .ended more ms) →
        ∃ (n : Nat) (u : Session ε F), s.Settles n u.store ∧ t = u.runDue := by
  intro s
  have hs : s.Closed := (Store.closed_new loader settings).run es
  refine ⟨fun n t h => ?_, fun agenda watchers t more ms h => ?_⟩
  · obtain ⟨hloading, hpending, htornDown⟩ := hs.settles h
    refine ⟨hloading, hpending, fun hbusy => ⟨?_, fun hqueue => ?_⟩, fun h => ?_⟩
    · simp [Store.isTornDown, htornDown hbusy]
    · simp [Store.isBusy_eq_false_iff.2 ⟨hloading, hpending, hqueue⟩] at hbusy
    · exact Store.isBusy_of_queue h.2
  · obtain ⟨n, -, u, hsettles, hend⟩ := settles_of_settle h
    exact ⟨n, u, hsettles, hend⟩

/-- The first page is answered and the store is torn down before it takes in the answer. -/
theorem busy_after_tearDown :
    let s : Store Game FilterSet := (Store.new .scripted ⟨2, 300, false⟩).run
      [.perform (.init none), .respond 0 (.answer (.ok ⟨[⟨1, "StarCraft"⟩], 1⟩)), .finish 0,
        .tearDown]
    ∃ t : Session Game FilterSet, (start s).settle = (t, .ended false 0) ∧ t.store.isBusy = true :=
  ⟨_, rfl, rfl⟩

end Session
end PagedList

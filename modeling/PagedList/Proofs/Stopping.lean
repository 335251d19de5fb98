import PagedList.Game
import PagedList.Proofs.EventLoop
import PagedList.Proofs.Publishing

/-! The end of a store. Its owner tears it down, or it is told to stop from outside, perhaps while its
owner waits for a message. Whichever way it goes, the same blank list is left behind, and of what
happens afterwards nothing can be seen. -/
namespace PagedList

/-- A list that shows nothing and that no filters wait for. -/
def ListState.Blank {ε F : Type} [Entity ε] (s : ListState ε F) : Prop :=
  s.snapshot = Snapshot.blank ∧ s.pending = none

namespace Store

variable {ε F : Type} [Entity ε] [EmptyCollection F]

/-- The ways in which a store comes to its end. -/
inductive Stops (s : Store ε F) : Store ε F → Prop
  | tornDown : s.Stops s.tearDown
  /-- It was told to stop, and then it is asked for something. -/
  | asked (operation : Operation ε F) : s.Stops (s.cancel.perform operation)
  /-- It was told to stop before its owner waits for a message or is told so meanwhile. -/
  | stopped {u} (hu : s.Drifts u) (hc : u.cancelled = true) : s.Stops u.tearDown
  /-- It is told to stop while its owner waits, but there is a message as well, which is taken. -/
  | taken {u} (hu : s.Drifts u) (hc : u.cancelled = true) (hq : u.queue ≠ []) : s.Stops u.take

theorem Drifts.isTornDown {s u : Store ε F} (h : s.Drifts u) (hs : s.isTornDown = true) :
    u.isTornDown = true :=
  h.induction (P := fun u => u.isTornDown = true) (fun _ e _ hu => isTornDown_happen hu e) hs

theorem Drifts.state_tearDown {s u : Store ε F} (h : s.Drifts u) :
    u.tearDown.state = s.tearDown.state := by
  rw [tearDown_state, tearDown_state, h.eq]

theorem take_of_isTornDown {s : Store ε F} (h : s.isTornDown = true) (hq : s.queue ≠ []) :
    s.take = ({ s with queue := s.queue.tail } : Store ε F).tearDown := by
  obtain ⟨m, rest, hqueue⟩ := List.exists_cons_of_ne_nil hq
  have hrest : ({ s with queue := rest } : Store ε F).isTornDown = true := h
  simp only [take, hqueue, List.tail_cons]
  rw [dispatch, if_pos hrest]

namespace Stops

variable {s t : Store ε F}

theorem reaches (h : s.Stops t) : s.Reaches t := by
  cases h with
  | tornDown => exact .happen s .tearDown
  | asked operation => exact (Reaches.happen s .cancel).trans (.happen _ (.perform operation))
  | stopped hu => exact hu.reaches.trans (.happen _ .tearDown)
  | taken hu => exact hu.reaches.trans (.happen _ .take)

/-- Every way of stopping leaves the list that tearing down leaves. -/
theorem state_eq (h : s.Stops t) : t.tornDown = true ∧ t.state = s.tearDown.state := by
  cases h with
  | tornDown => exact ⟨tornDown_tearDown s, rfl⟩
  | asked operation =>
    have hstop : s.cancel.isTornDown = true := by simp [cancel, isTornDown]
    have hcancel : s.Drifts s.cancel := .step .cancel rfl (.refl _)
    rw [perform_eq_dispatch, dispatch, if_pos hstop]
    exact ⟨tornDown_tearDown _, hcancel.state_tearDown⟩
  | stopped hu => exact ⟨tornDown_tearDown _, hu.state_tearDown⟩
  | @taken u hu hc hq =>
    have hstop : u.isTornDown = true := by simp [isTornDown, hc]
    rw [take_of_isTornDown hstop hq]
    refine ⟨tornDown_tearDown _, ?_⟩
    rw [← hu.state_tearDown, tearDown_state, tearDown_state]

end Stops

theorem blank_run_new (loader : Loader ε F) (settings : ListSettings) (es : List (Event ε F)) :
    let s : Store ε F := (new loader settings).run es
    s.tornDown = true → s.state.Blank := by
  refine run_induction (P := fun s => s.tornDown = true → s.state.Blank) (fun s e hs ht => ?_) ?_ es
  · cases hold : s.tornDown with
    | true =>
      rw [happen_of_tornDown hold e]
      exact hs hold
    | false =>
      rw [state_of_tornDown_happen hold ht]
      exact ⟨rfl, rfl⟩
  · intro h
    simp [tornDown_new] at h

end Store

namespace Session

variable {ε F : Type} [Entity ε] [EmptyCollection F]

theorem nextEvent_of_isTornDown {s : Session ε F} (h : s.store.isTornDown = true) :
    ∃ t u, s.nextEvent = (t, .ended false 0) ∧ s.store.Drifts u ∧ u.tearDown.Drifts t.store := by
  have hreceive : ∀ (fuel : Nat) (w : Session ε F), w.store.isTornDown = true →
      awaitMessage (fuel + 1) w = ({ w with store := w.store.tearDown }, some false) :=
    fun fuel w hw => by simp [awaitMessage, Store.receive?, hw]
  have hnext : ∃ w : Session ε F, s.store.Drifts w.store ∧ w.now = s.now ∧
      s.awaitNext = ({ w with store := w.store.tearDown }, some false) := by
    unfold awaitNext
    split
    · exact ⟨s.runDue, s.drifts_runDue, s.now_runDue, hreceive _ _ (s.drifts_runDue.isTornDown h)⟩
    · exact ⟨s, .refl _, rfl, hreceive 0 s h⟩
  obtain ⟨w, hdrifts, hnow, hnext⟩ := hnext
  have hms : w.store.tearDown.now - s.now = 0 := by
    rw [Store.now_tearDown, show w.store.now = s.now from hnow, Nat.sub_self]
  let after : Session ε F := { w with store := w.store.tearDown }
  refine ⟨after.runDue, w.store, ?_, hdrifts, after.drifts_runDue⟩
  simp only [nextEvent, hnext]
  exact congrArg _ (congrArg _ hms)

/-- However a store is stopped, by its owner, or from outside and then by the next operation or the
next message that is waited for, it shows nothing, awaits nothing and is as if it had been torn down.
Nothing that happens later changes the list or what is out, calls the loader or tells a watcher of
anything, and whoever waits for a message hears at once that there will be none. -/
theorem stopping_is_final (loader : Loader ε F) (settings : ListSettings)
    (es : List (Event ε F)) :
    let s : Store ε F := (Store.new loader settings).run es
    (∀ t, s.Stops t →
      (t.state.list = [] ∧ t.state.total = none ∧ t.state.isInitialLoading = false ∧
        t.state.isPaginating = false ∧ t.state.pending = none ∧ t.state.lastError = none) ∧
      (t.state = s.tearDown.state ∧ t.published = s.tearDown.published) ∧
      ∀ fs agenda watchers,
        let u : Session ε F := ⟨t.run fs, false, agenda, watchers⟩
        u.store.state = t.state ∧ u.store.published = t.published ∧ u.store.calls = t.calls ∧
        u.store.version = t.version ∧
        u.changed = (⟨t, false, agenda, watchers⟩ : Session ε F).changed ∧
        ∃ v, u.nextEvent = (v, .ended false 0)) ∧
    ∀ agenda watchers, ∃ t,
      (⟨s.cancel, false, agenda, watchers⟩ : Session ε F).nextEvent = (t, .ended false 0) ∧
      t.store.state = s.tearDown.state ∧ t.store.published = s.tearDown.published := by
  intro s
  have hs : s.Current := (Store.current_new loader settings).run es
  have hpublished : ∀ t, s.Reaches t → t.state = s.tearDown.state →
      t.published = s.tearDown.published := by
    rintro t ⟨fs, rfl⟩ ht
    rw [hs.run fs, ht]
    exact (hs.happen .tearDown).symm
  refine ⟨fun t h => ?_, fun agenda watchers => ?_⟩
  · obtain ⟨htornDown, hstate⟩ := h.state_eq
    have hblank : s.tearDown.state.Blank := by
      have hrun := Store.blank_run_new loader settings (es ++ [.tearDown])
      rw [Store.run_append] at hrun
      exact hrun (Store.tornDown_tearDown s)
    obtain ⟨hsnapshot, hpending⟩ := hstate ▸ hblank
    refine ⟨⟨congrArg Snapshot.list hsnapshot, congrArg Snapshot.total hsnapshot,
      congrArg Snapshot.isInitialLoading hsnapshot, congrArg Snapshot.isPaginating hsnapshot,
      hpending, congrArg Snapshot.lastError hsnapshot⟩,
      ⟨hstate, hpublished t h.reaches hstate⟩, ?_⟩
    intro fs agenda watchers u
    have hrun := Store.run_of_tornDown htornDown fs
    have hstop : u.store.isTornDown = true := by
      have htorn : u.store.tornDown = true := (congrArg Store.tornDown hrun).trans htornDown
      simp [Store.isTornDown, htorn]
    have hsame : (t.run fs).state = t.state ∧ (t.run fs).published = t.published ∧
        (t.run fs).calls = t.calls ∧ (t.run fs).version = t.version := by
      rw [hrun]
      exact ⟨rfl, rfl, rfl, rfl⟩
    obtain ⟨hstate, hpublished, hcalls, hversion⟩ := hsame
    obtain ⟨v, -, hnext, -⟩ := nextEvent_of_isTornDown hstop
    exact ⟨hstate, hpublished, hcalls, hversion, by simp [changed, u, hversion], v, hnext⟩
  · have hstop : s.cancel.isTornDown = true := by simp [Store.cancel, Store.isTornDown]
    have hcancel : s.Drifts s.cancel := .step .cancel rfl (.refl _)
    obtain ⟨t, u, hnext, hdrifts, hend⟩ := nextEvent_of_isTornDown
      (s := ⟨s.cancel, false, agenda, watchers⟩) hstop
    have hu : s.Drifts u := hcancel.trans hdrifts
    have hstate : t.store.state = s.tearDown.state := by
      rw [hend.eq]
      exact hu.state_tearDown
    have hreaches : s.Reaches t.store :=
      (hu.reaches.trans (.happen u .tearDown)).trans hend.reaches
    exact ⟨t, hnext, hstate, hpublished _ hreaches hstate⟩

/-- The first page is answered, and the store is told to stop before the answer is taken. -/
theorem stopped_before_first_page :
    let es : List (Event Game FilterSet) :=
      [.respond 0 (.answer (.ok ⟨[⟨1, "StarCraft"⟩], 1⟩)), .finish 0]
    let s : Store Game FilterSet := (Store.new .scripted ⟨2, 300, true⟩).run es
    s.Stops s.cancel.take ∧ s.cancel.take.state.list = [] ∧
      s.cancel.take.state = s.tearDown.state := by
  intro es s
  have hcancel : s.Drifts s.cancel := .step .cancel rfl (.refl _)
  have hstops : s.Stops s.cancel.take := .taken hcancel rfl (List.cons_ne_nil _ _)
  obtain ⟨⟨hlist, -⟩, ⟨hstate, -⟩, -⟩ :=
    (stopping_is_final .scripted ⟨2, 300, true⟩ es).1 _ hstops
  exact ⟨hstops, hlist, hstate⟩

end Session
end PagedList

import PagedList.Proofs.SessionRun
import PagedList.Proofs.Tasks

/-! What becomes of tasks and agenda while time passes. Time jumps to the next thing that happens, so
with every jump something has happened, and fewer things are still to happen. -/
namespace PagedList

namespace Work

variable {ε : Type}

/-- Whether this is a load that knows its answer and the time of it. -/
def isAnswered : Work ε → Bool
  | .load _ _ _ (some _) => true
  | _ => false

theorem eq_of_isAnswered_eq_false {call : Nat} {reply : Nat × Outcome ε} {w : Work ε}
    (h : (w.answered call reply).isAnswered = false) :
    w.answered call reply = w ∧ w.awaits call = false := by
  cases w with
  | debounce => exact ⟨rfl, rfl⟩
  | load c g k r =>
    cases r with
    | some => cases h
    | none =>
      by_cases hc : c = call
      · simp [answered, hc, isAnswered] at h
      · simp [answered, awaits, hc]

theorem isSome_message?_of_due {F : Type} {now due : Nat} {w : Work ε} (h : w.due = some due)
    (hle : due ≤ now) : (w.message? (F := F) now).isSome = true := by
  cases w with
  | debounce ticket d =>
    cases h
    simp [message?, hle]
  | load c g k reply =>
    obtain ⟨r, rfl, rfl⟩ := Option.map_eq_some_iff.1 h
    simp [message?, hle]

end Work

namespace Store

variable {ε F : Type} [Entity ε]

theorem runTasks_tasks (s : Store ε F) : s.runTasks.tasks.Sublist s.tasks :=
  List.filter_sublist.trans List.filter_sublist

theorem length_runTasks_lt {s : Store ε F} {t : Task ε} {due : Nat} (ht : t ∈ s.tasks)
    (hdue : t.work.due = some due) (hle : due ≤ s.now) :
    s.runTasks.tasks.length < s.tasks.length := by
  obtain ⟨m, hm⟩ := Option.isSome_iff_exists.1
    (Work.isSome_message?_of_due (F := F) hdue hle)
  simp only [runTasks, List.filter_filter]
  exact List.length_filter_lt_length_iff_exists.2 ⟨t, ht, by simp [hm]⟩

theorem exists_nextDue_le {s : Store ε F} {t : Task ε} {due : Nat} (ht : t ∈ s.tasks)
    (hdue : t.work.due = some due) : ∃ first, s.nextDue = some first ∧ first ≤ due := by
  have hmem : due ∈ s.tasks.filterMap (·.work.due) := List.mem_filterMap.2 ⟨t, ht, hdue⟩
  obtain ⟨first, hfirst⟩ := Option.isSome_iff_exists.1 (List.isSome_min?_of_mem hmem)
  exact ⟨first, hfirst, (List.min?_eq_some_iff.1 hfirst).2 due hmem⟩

end Store

namespace Session

variable {ε F : Type} [Entity ε]

theorem perform_respond (store : Store ε F) (call : Nat) (outcome : Outcome ε) :
    perform store (.respond call outcome) =
      { store with
        tasks := store.tasks.map fun t =>
          ⟨t.handle, t.work.answered call (store.now, outcome)⟩ } :=
  store.respond_eq call outcome

theorem mem_tasks_of_perform {store : Store ε F} {action : Action ε} {t : Task ε}
    (ht : t ∈ (perform store action).tasks) (hw : t.work.isAnswered = false) :
    t ∈ store.tasks ∧
      ∀ call outcome, action = .respond call outcome → t.work.awaits call = false := by
  cases action with
  | cancel => exact ⟨ht, fun _ _ h => nomatch h⟩
  | respond call outcome =>
    rw [perform_respond] at ht
    obtain ⟨b, hb, rfl⟩ := List.mem_map.1 ht
    obtain ⟨heq, hawaits⟩ := Work.eq_of_isAnswered_eq_false hw
    rw [heq]
    refine ⟨hb, fun c o h => ?_⟩
    cases h
    exact hawaits

theorem mem_tasks_perform {store : Store ε F} (action : Action ε) {t : Task ε} {due : Nat}
    (ht : t ∈ store.tasks) (hdue : t.work.due = some due) : t ∈ (perform store action).tasks := by
  cases action with
  | cancel => exact ht
  | respond call outcome =>
    rw [perform_respond]
    exact List.mem_map.2 ⟨t, ht, by rw [Work.answered_of_due hdue]⟩

theorem length_tasks_perform (store : Store ε F) (action : Action ε) :
    (perform store action).tasks.length = store.tasks.length := by
  cases action with
  | cancel => rfl
  | respond call outcome => simp [perform_respond]

/-- A task that knows no answer after things have happened outside was there before, and none of
these things was an answer to it. -/
theorem mem_tasks_of_foldl_perform {store : Store ε F} {due : List (Nat × Action ε)} {t : Task ε}
    (ht : t ∈ (due.foldl (fun store e => perform store e.2) store).tasks)
    (hw : t.work.isAnswered = false) :
    t ∈ store.tasks ∧
      ∀ e ∈ due, ∀ call outcome, e.2 = .respond call outcome → t.work.awaits call = false := by
  induction due generalizing store with
  | nil => exact ⟨ht, fun _ h => nomatch h⟩
  | cons e due ih =>
    obtain ⟨hmem, hrest⟩ := ih ht
    obtain ⟨hmem', hfirst⟩ := mem_tasks_of_perform hmem hw
    exact ⟨hmem', List.forall_mem_cons.2 ⟨hfirst, hrest⟩⟩

theorem mem_tasks_foldl_perform {store : Store ε F} (due : List (Nat × Action ε)) {t : Task ε}
    {time : Nat} (ht : t ∈ store.tasks) (hdue : t.work.due = some time) :
    t ∈ (due.foldl (fun store e => perform store e.2) store).tasks := by
  induction due generalizing store with
  | nil => exact ht
  | cons e due ih => exact ih (mem_tasks_perform e.2 ht hdue)

theorem length_tasks_foldl_perform (store : Store ε F) (due : List (Nat × Action ε)) :
    (due.foldl (fun store e => perform store e.2) store).tasks.length = store.tasks.length := by
  induction due generalizing store with
  | nil => rfl
  | cons e due ih => exact (ih _).trans (length_tasks_perform store e.2)

theorem cancelled_foldl_perform {store : Store ε F} {due : List (Nat × Action ε)}
    (h : ∀ e ∈ due, e.2 ≠ .cancel) :
    (due.foldl (fun store e => perform store e.2) store).cancelled = store.cancelled := by
  induction due generalizing store with
  | nil => rfl
  | cons e due ih =>
    obtain ⟨hfirst, hrest⟩ := List.forall_mem_cons.1 h
    refine (ih hrest).trans ?_
    cases ha : e.2 with
    | cancel => exact absurd ha hfirst
    | respond call outcome => simp [ha, perform_respond]

theorem mem_agenda_runDue {s : Session ε F} {e : Nat × Action ε} :
    e ∈ s.runDue.agenda ↔ e ∈ s.agenda ∧ s.now < e.1 := by
  simp [runDue_eq]

theorem mem_tasks_of_runDue {s : Session ε F} {t : Task ε} (ht : t ∈ s.runDue.store.tasks)
    (hw : t.work.isAnswered = false) :
    t ∈ s.store.tasks ∧ ∀ time call outcome, (time, .respond call outcome) ∈ s.agenda →
      time ≤ s.now → t.work.awaits call = false := by
  rw [runDue_eq] at ht
  obtain ⟨hmem, hrest⟩ := mem_tasks_of_foldl_perform ((Store.runTasks_tasks _).mem ht) hw
  refine ⟨hmem, fun time call outcome he hle => ?_⟩
  have hdue : (time, Action.respond call outcome) ∈ s.agenda.filter fun e => e.1 ≤ s.now := by
    simp [he, hle]
  exact hrest _ hdue call outcome rfl

theorem cancelled_runDue {s : Session ε F} (h : ∀ time, (time, Action.cancel) ∉ s.agenda) :
    s.runDue.store.cancelled = s.store.cancelled := by
  rw [runDue_eq]
  refine cancelled_foldl_perform fun e he hcancel => h e.1 ?_
  rw [← hcancel]
  exact (List.mem_filter.1 he).1

theorem length_tasks_runDue_le (s : Session ε F) :
    s.runDue.store.tasks.length ≤ s.store.tasks.length := by
  have hlength := length_tasks_foldl_perform s.store (s.agenda.filter fun e => e.1 ≤ s.now)
  rw [runDue_eq, ← hlength]
  exact (Store.runTasks_tasks _).length_le

theorem length_tasks_runDue_lt {s : Session ε F} {t : Task ε} {due : Nat} (ht : t ∈ s.store.tasks)
    (hdue : t.work.due = some due) (hle : due ≤ s.now) :
    s.runDue.store.tasks.length < s.store.tasks.length := by
  let outside := s.agenda.filter fun e => e.1 ≤ s.now
  have hlength := length_tasks_foldl_perform s.store outside
  have hnow := now_foldl_perform s.store outside
  rw [runDue_eq, ← hlength]
  exact Store.length_runTasks_lt (mem_tasks_foldl_perform outside ht hdue) hdue
    (Nat.le_trans hle (Nat.le_of_eq hnow.symm))

theorem length_agenda_runDue_le (s : Session ε F) : s.runDue.agenda.length ≤ s.agenda.length := by
  rw [runDue_eq]
  exact List.length_filter_le _ _

theorem length_agenda_runDue_lt {s : Session ε F} {e : Nat × Action ε} (he : e ∈ s.agenda)
    (hle : e.1 ≤ s.now) : s.runDue.agenda.length < s.agenda.length := by
  rw [runDue_eq]
  exact List.length_filter_lt_length_iff_exists.2 ⟨e, he, by simp [hle]⟩

/-! What happens next -/

theorem exists_nextDue {s : Session ε F}
    (h : (∃ e, e ∈ s.agenda) ∨ ∃ t ∈ s.store.tasks, ∃ due, t.work.due = some due) :
    ∃ due, s.nextDue = some due := by
  refine Option.isSome_iff_exists.1 ?_
  rcases h with ⟨e, he⟩ | ⟨t, ht, due, hdue⟩
  · exact List.isSome_min?_of_mem (List.mem_append_left _ (List.mem_map_of_mem he))
  · obtain ⟨first, hfirst, -⟩ := Store.exists_nextDue_le ht hdue
    exact List.isSome_min?_of_mem (a := first) (List.mem_append_right _ (by simp [hfirst]))

theorem of_nextDue {s : Session ε F} {due : Nat} (h : s.nextDue = some due) :
    (∃ e ∈ s.agenda, e.1 = due) ∨ ∃ t ∈ s.store.tasks, t.work.due = some due := by
  rcases List.mem_append.1 (List.min?_mem h) with h | h
  · exact .inl (List.mem_map.1 h)
  · have hstore : s.store.nextDue = some due := Option.mem_toList.1 h
    exact .inr (List.mem_filterMap.1 (List.min?_mem hstore))

theorem nextDue_le {s : Session ε F} {due : Nat} (h : s.nextDue = some due) {t : Task ε}
    (ht : t ∈ s.store.tasks) {time : Nat} (htime : t.work.due = some time) : due ≤ time := by
  obtain ⟨first, hfirst, hle⟩ := Store.exists_nextDue_le ht htime
  refine Nat.le_trans ((List.min?_eq_some_iff.1 h).2 first ?_) hle
  exact List.mem_append_right _ (by simp [hfirst])

/-- With every jump of the time fewer things are still to happen. -/
theorem outstanding_lt {s : Session ε F} {due : Nat} (h : s.nextDue = some due) :
    ((s.setNow (max due s.now)).runDue).outstanding < s.outstanding := by
  have hagenda := (s.setNow (max due s.now)).length_agenda_runDue_le
  have htasks := (s.setNow (max due s.now)).length_tasks_runDue_le
  rcases of_nextDue h with ⟨e, he, hdue⟩ | ⟨t, ht, hdue⟩
  · have hle : e.1 ≤ max due s.now := hdue ▸ Nat.le_max_left e.1 s.now
    exact Nat.add_lt_add_of_lt_of_le
      (length_agenda_runDue_lt (s := s.setNow (max due s.now)) he hle) htasks
  · have hle : due ≤ max due s.now := Nat.le_max_left due s.now
    exact Nat.add_lt_add_of_le_of_lt hagenda
      (length_tasks_runDue_lt (s := s.setNow (max due s.now)) ht hdue hle)

end Session
end PagedList

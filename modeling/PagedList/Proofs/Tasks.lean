import Mathlib.Data.List.Basic
import PagedList.Proofs.Awaited
import PagedList.Proofs.StoreRun

/-! The tasks of a store. There is at most one load and one waiting time, and the store remembers
both, so that what a command starts takes the place of what was there. -/
namespace PagedList

theorem filterMap_filter_of_eq_none {α β : Type} {p : α → Bool} {f : α → Option β}
    (h : ∀ a, p a = false → f a = none) (l : List α) : (l.filter p).filterMap f = l.filterMap f := by
  rw [List.filterMap_filter]
  refine List.filterMap_congr fun a _ => ?_
  cases hp : p a with
  | true => simp
  | false => simp [h a hp]

theorem filterMap_filter_eq_nil {α β : Type} {p : α → Bool} {f : α → Option β}
    (h : ∀ a, p a = true → f a = none) (l : List α) : (l.filter p).filterMap f = [] :=
  List.filterMap_eq_nil_iff.2 fun a ha => h a (List.mem_filter.1 ha).2

namespace Work

variable {ε : Type}

/-- What becomes of the work of a task when a call is answered. -/
def answered (call : Nat) (reply : Nat × Outcome ε) : Work ε → Work ε
  | .load c generation kind none => .load c generation kind (if c = call then some reply else none)
  | w => w

variable (call : Nat) (reply : Nat × Outcome ε) (w : Work ε)

theorem of_answered :
    (w.answered call reply).isLoad = w.isLoad ∧ (w.answered call reply).tag? = w.tag? ∧
      (w.answered call reply).ticket? = w.ticket? := by
  unfold answered
  split <;> exact ⟨rfl, rfl, rfl⟩

variable {call reply w}

theorem answered_of_due {due : Nat} (h : w.due = some due) : w.answered call reply = w := by
  unfold answered
  split
  · cases h
  · rfl

theorem answered_of_awaits_eq_false (h : w.awaits call = false) : w.answered call reply = w := by
  unfold answered
  split
  · rename_i c g k
    have hne : c ≠ call := by simpa [awaits] using h
    rw [if_neg hne]
  · rfl

theorem eq_debounce_of_answered {ticket due : Nat}
    (h : w.answered call reply = .debounce ticket due) : w = .debounce ticket due := by
  unfold answered at h
  split at h
  · cases h
  · exact h

end Work

namespace Store

variable {ε F : Type} [Entity ε]

def loads (s : Store ε F) : List Tag := s.tasks.filterMap (·.work.tag?)

def timers (s : Store ε F) : List Nat := s.tasks.filterMap (·.work.ticket?)

def answers (s : Store ε F) : List Tag := s.queue.filterMap Message.tag?

/-- The answer to the next call of the loader and the time of it, if the loader answers on its own. -/
def nextReply (s : Store ε F) (params : PageParams F) : Option (Nat × Outcome ε) :=
  match s.loader.reply s.calls.length params with
  | .after ms outcome => some (s.now + ms, outcome)
  | .awaited => none

/-- Every task is the one that is remembered for its kind of work, so another one takes its place. -/
structure Wired (s : Store ε F) : Prop where
  inFlight_lt : ∀ handle ∈ s.inFlight, handle < s.nextHandle
  debounceTimer_lt : ∀ handle ∈ s.debounceTimer, handle < s.nextHandle
  apart : ∀ handle ∈ s.inFlight, handle ∉ s.debounceTimer
  mem_inFlight : ∀ t ∈ s.tasks, t.work.isLoad = true → t.handle ∈ s.inFlight
  mem_debounceTimer : ∀ t ∈ s.tasks, t.work.isLoad = false → t.handle ∈ s.debounceTimer

namespace Wired

variable {s : Store ε F}

theorem of_tasks {t : Store ε F} (hs : s.Wired) (hi : t.inFlight = s.inFlight)
    (hd : t.debounceTimer = s.debounceTimer) (hn : t.nextHandle = s.nextHandle)
    (h : ∀ a ∈ t.tasks, ∃ b ∈ s.tasks, a.handle = b.handle ∧ a.work.isLoad = b.work.isLoad) :
    t.Wired := by
  refine ⟨?_, ?_, ?_, ?_, ?_⟩
  · rw [hi, hn]
    exact hs.inFlight_lt
  · rw [hd, hn]
    exact hs.debounceTimer_lt
  · rw [hi, hd]
    exact hs.apart
  · intro a ha hl
    obtain ⟨b, hb, hh, hk⟩ := h a ha
    rw [hi, hh]
    exact hs.mem_inFlight b hb (hk ▸ hl)
  · intro a ha hl
    obtain ⟨b, hb, hh, hk⟩ := h a ha
    rw [hd, hh]
    exact hs.mem_debounceTimer b hb (hk ▸ hl)

theorem of_eq {t : Store ε F} (hs : s.Wired) (ht : t.tasks = s.tasks)
    (hi : t.inFlight = s.inFlight) (hd : t.debounceTimer = s.debounceTimer)
    (hn : t.nextHandle = s.nextHandle) : t.Wired :=
  hs.of_tasks hi hd hn fun a ha => ⟨a, ht ▸ ha, rfl, rfl⟩

/-- The task that is remembered for loads is the only load. -/
theorem beq_inFlight (hs : s.Wired) {t : Task ε} (ht : t ∈ s.tasks) :
    (some t.handle == s.inFlight) = t.work.isLoad := by
  cases hl : t.work.isLoad with
  | true =>
    have hi : s.inFlight = some t.handle := hs.mem_inFlight t ht hl
    simp [hi]
  | false =>
    have ha : s.inFlight ≠ some t.handle := fun hi => hs.apart _ hi (hs.mem_debounceTimer t ht hl)
    simpa using Ne.symm ha

theorem beq_debounceTimer (hs : s.Wired) {t : Task ε} (ht : t ∈ s.tasks) :
    (some t.handle == s.debounceTimer) = !t.work.isLoad := by
  cases hl : t.work.isLoad with
  | true =>
    have ha : s.debounceTimer ≠ some t.handle := hs.apart _ (hs.mem_inFlight t ht hl)
    simpa using Ne.symm ha
  | false =>
    have hd : s.debounceTimer = some t.handle := hs.mem_debounceTimer t ht hl
    simp [hd]

end Wired

theorem abort_tasks (s : Store ε F) (handle : Option Nat) :
    (s.abort handle).tasks = s.tasks.filter fun t => some t.handle != handle := by
  cases handle with
  | none => exact (List.filter_eq_self.2 fun _ _ => rfl).symm
  | some handle => exact List.filter_congr fun t _ => by simp [bne]

@[simp] theorem abort_inFlight (s : Store ε F) (handle : Option Nat) :
    (s.abort handle).inFlight = s.inFlight := by
  cases handle <;> rfl

@[simp] theorem abort_debounceTimer (s : Store ε F) (handle : Option Nat) :
    (s.abort handle).debounceTimer = s.debounceTimer := by
  cases handle <;> rfl

@[simp] theorem abort_calls (s : Store ε F) (handle : Option Nat) :
    (s.abort handle).calls = s.calls := by
  cases handle <;> rfl

@[simp] theorem abort_nextHandle (s : Store ε F) (handle : Option Nat) :
    (s.abort handle).nextHandle = s.nextHandle := by
  cases handle <;> rfl

namespace Wired

variable {s : Store ε F}

/-- A new load takes the place of the one before it and leaves the waiting times alone. -/
theorem load_tasks (hs : s.Wired) (g : Generation) (k : LoadKind) (params : PageParams F) :
    (s.load g k params).tasks =
      (s.tasks.filter fun t => !t.work.isLoad) ++
        [⟨s.nextHandle, .load s.calls.length g k (s.nextReply params)⟩] := by
  have hnew : (some s.nextHandle != s.inFlight) = true := by
    refine bne_iff_ne.2 fun he => ?_
    exact Nat.lt_irrefl _ (hs.inFlight_lt _ he.symm)
  simp only [Store.load, spawn, abort_tasks, List.filter_append]
  congr 1
  · exact List.filter_congr fun t ht => by rw [bne, hs.beq_inFlight ht]
  · exact List.filter_cons_of_pos hnew

theorem schedule_tasks (hs : s.Wired) (ticket : Nat) :
    (s.schedule ticket).tasks =
      s.tasks.filter (·.work.isLoad) ++
        [⟨s.nextHandle, .debounce ticket (s.now + s.debounceMs)⟩] := by
  have hnew : (some s.nextHandle != s.debounceTimer) = true := by
    refine bne_iff_ne.2 fun he => ?_
    exact Nat.lt_irrefl _ (hs.debounceTimer_lt _ he.symm)
  simp only [schedule, spawn, abort_tasks, List.filter_append]
  congr 1
  · exact List.filter_congr fun t ht => by rw [bne, hs.beq_debounceTimer ht, Bool.not_not]
  · exact List.filter_cons_of_pos hnew

theorem cancelAll_tasks (hs : s.Wired) : (s.execute .cancelAll).tasks = [] := by
  simp only [execute, abort_tasks, List.filter_filter]
  refine List.filter_eq_nil_iff.2 fun t ht => ?_
  rw [bne, bne, hs.beq_inFlight ht, hs.beq_debounceTimer ht]
  cases t.work.isLoad <;> simp

theorem load (hs : s.Wired) (g : Generation) (k : LoadKind) (params : PageParams F) :
    (s.load g k params).Wired := by
  have htasks := hs.load_tasks g k params
  have hi : (s.load g k params).inFlight = some s.nextHandle := by simp [Store.load, spawn]
  have hd : (s.load g k params).debounceTimer = s.debounceTimer := by simp [Store.load, spawn]
  have hn : (s.load g k params).nextHandle = s.nextHandle + 1 := by simp [Store.load, spawn]
  refine ⟨?_, ?_, ?_, ?_, ?_⟩
  · intro handle hh
    simp only [hi, Option.mem_some_iff] at hh
    omega
  · intro handle hh
    have hlt := hs.debounceTimer_lt handle (hd ▸ hh)
    omega
  · intro handle hh hh'
    simp only [hi, Option.mem_some_iff] at hh
    have hlt := hs.debounceTimer_lt handle (hd ▸ hh')
    omega
  · intro t ht hl
    rw [htasks] at ht
    rcases List.mem_append.1 ht with ht | ht
    · simp [hl] at ht
    · simp [List.mem_singleton.1 ht, hi]
  · intro t ht hl
    rw [htasks] at ht
    rcases List.mem_append.1 ht with ht | ht
    · rw [hd]
      exact hs.mem_debounceTimer t (List.mem_filter.1 ht).1 hl
    · simp [List.mem_singleton.1 ht, Work.isLoad] at hl

theorem schedule (hs : s.Wired) (ticket : Nat) : (s.schedule ticket).Wired := by
  have htasks := hs.schedule_tasks ticket
  have hi : (s.schedule ticket).inFlight = s.inFlight := by simp [Store.schedule, spawn]
  have hd : (s.schedule ticket).debounceTimer = some s.nextHandle := by
    simp [Store.schedule, spawn]
  have hn : (s.schedule ticket).nextHandle = s.nextHandle + 1 := by simp [Store.schedule, spawn]
  refine ⟨?_, ?_, ?_, ?_, ?_⟩
  · intro handle hh
    have hlt := hs.inFlight_lt handle (hi ▸ hh)
    omega
  · intro handle hh
    simp only [hd, Option.mem_some_iff] at hh
    omega
  · intro handle hh hh'
    simp only [hd, Option.mem_some_iff] at hh'
    have hlt := hs.inFlight_lt handle (hi ▸ hh)
    omega
  · intro t ht hl
    rw [htasks] at ht
    rcases List.mem_append.1 ht with ht | ht
    · rw [hi]
      exact hs.mem_inFlight t (List.mem_filter.1 ht).1 hl
    · simp [List.mem_singleton.1 ht, Work.isLoad] at hl
  · intro t ht hl
    rw [htasks] at ht
    rcases List.mem_append.1 ht with ht | ht
    · simp [hl] at ht
    · simp [List.mem_singleton.1 ht, hd]

theorem execute (hs : s.Wired) (c : Command F) : (s.execute c).Wired := by
  cases c with
  | loadPage g k params => exact hs.load g k params
  | scheduleDebounce ticket => exact hs.schedule ticket
  | cancelAll =>
    have hnil : ∀ t, t ∉ (s.execute .cancelAll).tasks := by simp [hs.cancelAll_tasks]
    refine ⟨?_, ?_, ?_, fun t ht => absurd ht (hnil t), fun t ht => absurd ht (hnil t)⟩
    all_goals exact fun handle h => nomatch h
  | none => exact hs

end Wired

theorem Wired.execute_loads {s : Store ε F} (hs : s.Wired) (c : Command F) :
    (s.execute c).loads = c.loads s.loads := by
  have hnone : ∀ t : Task ε, t.work.isLoad = false → t.work.tag? = none := fun t h => by
    cases hw : t.work <;> simp_all [Work.isLoad, Work.tag?]
  cases c with
  | loadPage g k params =>
    have htasks := hs.load_tasks g k params
    change (s.load g k params).tasks.filterMap _ = _
    rw [htasks, List.filterMap_append, filterMap_filter_eq_nil (by simpa using hnone)]
    rfl
  | scheduleDebounce ticket =>
    change (s.schedule ticket).tasks.filterMap _ = _
    rw [hs.schedule_tasks, List.filterMap_append, filterMap_filter_of_eq_none hnone]
    exact List.append_nil _
  | cancelAll =>
    rw [loads, hs.cancelAll_tasks]
    rfl
  | none => rfl

theorem Wired.execute_timers {s : Store ε F} (hs : s.Wired) (c : Command F) :
    (s.execute c).timers = c.timers s.timers := by
  have hnone : ∀ t : Task ε, t.work.isLoad = true → t.work.ticket? = none := fun t h => by
    cases hw : t.work <;> simp_all [Work.isLoad, Work.ticket?]
  cases c with
  | loadPage g k params =>
    have htasks := hs.load_tasks g k params
    change (s.load g k params).tasks.filterMap _ = _
    rw [htasks, List.filterMap_append, filterMap_filter_of_eq_none (by simpa using hnone)]
    exact List.append_nil _
  | scheduleDebounce ticket =>
    change (s.schedule ticket).tasks.filterMap _ = _
    rw [hs.schedule_tasks, List.filterMap_append, filterMap_filter_eq_nil hnone]
    rfl
  | cancelAll =>
    rw [timers, hs.cancelAll_tasks]
    rfl
  | none => rfl

theorem respond_eq (s : Store ε F) (call : Nat) (outcome : Outcome ε) :
    (s.respond call outcome).1 =
      { s with tasks := s.tasks.map fun t => ⟨t.handle, t.work.answered call (s.now, outcome)⟩ } := by
  unfold respond
  split
  · simp only [Store.mk.injEq, true_and, and_true]
    refine List.map_congr_left fun t _ => ?_
    cases t with
    | mk handle work =>
      cases work with
      | debounce => rfl
      | load c g k reply =>
        cases reply with
        | some => rfl
        | none =>
          simp only [Work.answered]
          split <;> rfl
  · rename_i h
    have hself : s.tasks.map (fun t => ⟨t.handle, t.work.answered call (s.now, outcome)⟩) =
        s.tasks := by
      refine (List.map_congr_left fun t ht => ?_).trans (List.map_id _)
      have hno : t.work.awaits call = false := by simp_all
      rw [Work.answered_of_awaits_eq_false hno, id]
    rw [hself]

variable [EmptyCollection F]

theorem Wired.apply {s : Store ε F} (hs : s.Wired) (m : Message ε F) :
    (s.apply m).Wired ∧ (s.apply m).loads = (s.state.update m).2.loads s.loads ∧
      (s.apply m).timers = (s.state.update m).2.timers s.timers := by
  have hw : ({ s with state := (s.state.update m).1 } : Store ε F).Wired :=
    hs.of_eq rfl rfl rfl rfl
  rw [apply_eq]
  refine ⟨(hw.execute _).of_eq rfl rfl rfl rfl, ?_, ?_⟩
  · exact hw.execute_loads _
  · exact hw.execute_timers _

theorem Wired.apply_of_loadPage {s : Store ε F} (hs : s.Wired) {m : Message ε F} {g : Generation}
    {k : LoadKind} {params : PageParams F} (hm : (s.state.update m).2 = .loadPage g k params) :
    (s.apply m).tasks =
        (s.tasks.filter fun t => !t.work.isLoad) ++
          [⟨s.nextHandle, .load s.calls.length g k (s.nextReply params)⟩] ∧
      (s.apply m).calls = s.calls ++ [params] := by
  have hw : ({ s with state := (s.state.update m).1 } : Store ε F).Wired :=
    hs.of_eq rfl rfl rfl rfl
  rw [apply_eq, hm]
  constructor
  · exact hw.load_tasks g k params
  · show (({ s with state := (s.state.update m).1 } : Store ε F).load g k params).calls = _
    simp [Store.load, spawn]

theorem Wired.apply_load {s : Store ε F} (hs : s.Wired)
    (hl : ∀ t ∈ s.tasks, t.work.isLoad = true) {m : Message ε F} {g : Generation} {k : LoadKind}
    {params : PageParams F} {ms : Nat} {outcome : Outcome ε}
    (hm : (s.state.update m).2 = .loadPage g k params)
    (hr : s.loader.reply s.calls.length params = .after ms outcome) :
    (s.apply m).tasks =
        [⟨s.nextHandle, .load s.calls.length g k (some (s.now + ms, outcome))⟩] ∧
      (s.apply m).calls = s.calls ++ [params] := by
  obtain ⟨htasks, hcalls⟩ := hs.apply_of_loadPage hm
  have hnone : s.tasks.filter (fun t => !t.work.isLoad) = [] :=
    List.filter_eq_nil_iff.2 fun t ht => by simp [hl t ht]
  rw [htasks, hnone, nextReply, hr]
  exact ⟨rfl, hcalls⟩

end Store
end PagedList

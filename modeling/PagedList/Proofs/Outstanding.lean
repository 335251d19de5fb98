import Mathlib.Data.List.Perm.Basic
import PagedList.Game
import PagedList.Proofs.Ending
import PagedList.Proofs.Tasks

/-! What is outstanding. As long as a store is not told to stop, the answer that its list awaits is
either a load under way or in the queue, and so is the end of every waiting time. -/
namespace PagedList
namespace Store

variable {ε F : Type} [Entity ε]

/-- What holds of a store as long as it is not told to stop. -/
structure Sound (s : Store ε F) : Prop where
  wired : s.Wired
  coherent : s.state.Coherent
  tracks : s.state.Tracks (s.loads ++ s.answers)
  current : ∀ r ∈ s.loads, r.generation = s.state.generation
  timed : s.state.Timed s.timers s.queue

theorem perm_eraseIdx {α : Type} {l : List α} {i : Nat} {a : α} (h : l[i]? = some a) :
    l.Perm (a :: l.eraseIdx i) := by
  obtain ⟨hi, rfl⟩ := List.getElem?_eq_some_iff.1 h
  exact (List.getElem_cons_eraseIdx_perm hi).symm

omit [Entity ε] in
theorem answers_concat (queue : List (Message ε F)) (m : Message ε F) :
    (queue ++ [m]).filterMap Message.tag? = queue.filterMap Message.tag? ++ m.tag?.toList := by
  rw [List.filterMap_append]
  cases h : m.tag? <;> simp [h]

theorem finish_state (s : Store ε F) (place : Nat) : (s.finish place).state = s.state := by
  unfold finish
  split <;> rfl

theorem finish_tasks (s : Store ε F) (place : Nat) :
    (s.finish place).tasks.Sublist s.tasks := by
  unfold finish
  split
  · exact List.eraseIdx_sublist _ _
  · exact List.Sublist.refl _

theorem Wired.finish {s : Store ε F} (hs : s.Wired) (place : Nat) : (s.finish place).Wired := by
  refine hs.of_tasks ?_ ?_ ?_ fun a ha => ⟨a, (s.finish_tasks place).mem ha, rfl, rfl⟩
  all_goals
    unfold Store.finish
    split <;> rfl

/-- The tag of a load that is done goes from the tasks into the queue. -/
theorem perm_tags_finish (s : Store ε F) (place : Nat) :
    (s.loads ++ s.answers).Perm ((s.finish place).loads ++ (s.finish place).answers) := by
  unfold finish
  split
  · rename_i m h
    obtain ⟨t, ht, hm⟩ := Option.bind_eq_some_iff.1 h
    have hloads : s.loads.Perm
        (m.tag?.toList ++ (s.tasks.eraseIdx place).filterMap (·.work.tag?)) := by
      rw [Work.tag?_of_message? hm]
      refine ((perm_eraseIdx ht).filterMap _).trans (.of_eq ?_)
      cases h : t.work.tag? <;> simp [h]
    change (s.loads ++ s.answers).Perm ((s.tasks.eraseIdx place).filterMap (·.work.tag?) ++
      (s.queue ++ [m]).filterMap Message.tag?)
    rw [answers_concat]
    refine (hloads.append_right _).trans ?_
    rw [← List.append_assoc, List.append_assoc]
    exact List.perm_append_comm
  · exact List.Perm.refl _

theorem perm_tags_take {s : Store ε F} {m : Message ε F} {rest : List (Message ε F)}
    (h : s.queue = m :: rest) :
    (s.loads ++ s.answers).Perm
      (m.tag?.toList ++ (s.loads ++ rest.filterMap Message.tag?)) := by
  have hcons : s.answers = m.tag?.toList ++ rest.filterMap Message.tag? := by
    cases hm : m.tag? <;> simp [hm, answers, h]
  rw [hcons]
  exact List.perm_append_comm_assoc _ _ _

theorem timed_finish {s : Store ε F} (hs : s.state.Timed s.timers s.queue) (place : Nat) :
    (s.finish place).state.Timed (s.finish place).timers (s.finish place).queue := by
  unfold finish
  split
  · rename_i m h
    obtain ⟨t, ht, hm⟩ := Option.bind_eq_some_iff.1 h
    intro ticket filters hp
    obtain ⟨hlast, hmem⟩ := hs ticket filters hp
    refine ⟨hlast, ?_⟩
    rcases hmem with hmem | hmem
    · obtain ⟨a, ha, hat⟩ := List.mem_filterMap.1 hmem
      rcases List.mem_cons.1 ((perm_eraseIdx ht).mem_iff.1 ha) with rfl | ha
      · exact .inr (List.mem_append.2 (.inr (List.mem_singleton.2
          (Work.eq_debounceElapsed hm hat).symm)))
      · exact .inl (List.mem_filterMap.2 ⟨a, ha, hat⟩)
    · exact .inr (List.mem_append.2 (.inl hmem))
  · exact hs

theorem loads_respond (s : Store ε F) (call : Nat) (outcome : Outcome ε) :
    (s.respond call outcome).1.loads = s.loads := by
  simp only [loads, respond_eq, List.filterMap_map]
  exact List.filterMap_congr fun t _ => (t.work.of_answered call _).2.1

theorem timers_respond (s : Store ε F) (call : Nat) (outcome : Outcome ε) :
    (s.respond call outcome).1.timers = s.timers := by
  simp only [timers, respond_eq, List.filterMap_map]
  exact List.filterMap_congr fun t _ => (t.work.of_answered call _).2.2

theorem Wired.respond {s : Store ε F} (hs : s.Wired) (call : Nat) (outcome : Outcome ε) :
    (s.respond call outcome).1.Wired := by
  rw [respond_eq]
  refine hs.of_tasks rfl rfl rfl fun a ha => ?_
  obtain ⟨b, hb, rfl⟩ := List.mem_map.1 ha
  exact ⟨b, hb, rfl, (b.work.of_answered call _).1⟩

theorem respond_state (s : Store ε F) (call : Nat) (outcome : Outcome ε) :
    (s.respond call outcome).1.state = s.state := by
  rw [respond_eq]

theorem respond_queue (s : Store ε F) (call : Nat) (outcome : Outcome ε) :
    (s.respond call outcome).1.queue = s.queue := by
  rw [respond_eq]

namespace Sound

variable {s : Store ε F}

theorem finish (hs : s.Sound) (place : Nat) : (s.finish place).Sound where
  wired := hs.wired.finish place
  coherent := s.finish_state place ▸ hs.coherent
  tracks := s.finish_state place ▸ hs.tracks.perm (s.perm_tags_finish place)
  current r hr := by
    rw [finish_state]
    exact hs.current r (((s.finish_tasks place).filterMap _).mem hr)
  timed := timed_finish hs.timed place

theorem respond (hs : s.Sound) (call : Nat) (outcome : Outcome ε) :
    (s.respond call outcome).1.Sound := by
  have hstate := s.respond_state call outcome
  have hqueue := s.respond_queue call outcome
  refine ⟨hs.wired.respond call outcome, hstate ▸ hs.coherent, ?_, ?_, ?_⟩
  · rw [loads_respond, answers, hqueue, hstate]
    exact hs.tracks
  · rw [loads_respond, hstate]
    exact hs.current
  · rw [timers_respond, hqueue, hstate]
    exact hs.timed

end Sound

variable [EmptyCollection F]

/-- A store stays sound with a message that until then still counts as on its way. -/
theorem sound_apply {s : Store ε F} {m : Message ε F} (hw : s.Wired) (hc : s.state.Coherent)
    (ht : s.state.Tracks (m.tag?.toList ++ (s.loads ++ s.answers)))
    (hl : ∀ r ∈ s.loads, r.generation = s.state.generation)
    (hd : s.state.Timed s.timers (m :: s.queue))
    (hn : s.state.isReset m = true → s.state.generation.number.toNat + 1 < UInt64.size) :
    (s.apply m).Sound := by
  have hstep := s.state.step_update m
  obtain ⟨hwired, hloads, htimers⟩ := hw.apply m
  refine ⟨hwired, ?_, ?_, ?_, ?_⟩
  · rw [apply_state]
    exact hstep.coherent hc
  · rw [apply_state, hloads, answers, apply_queue]
    exact hstep.tracks hc hn ht
  · rw [apply_state, hloads]
    exact hstep.current_loads hl
  · rw [apply_state, htimers, apply_queue]
    exact hstep.timed hd

namespace Sound

variable {s : Store ε F}

theorem perform (hs : s.Sound) (ht : s.isTornDown = false) (operation : Operation ε F)
    (hn : s.state.isReset operation.message = true →
      s.state.generation.number.toNat + 1 < UInt64.size) : (s.perform operation).Sound := by
  rw [perform_eq_dispatch, dispatch_eq_apply ht]
  have htag : operation.message.tag? = (none : Option Tag) := by cases operation <;> rfl
  refine sound_apply hs.wired hs.coherent ?_ hs.current ?_ hn
  · rw [htag]
    exact hs.tracks
  · exact hs.timed.mono fun m hm => List.mem_cons_of_mem _ hm

theorem take (hs : s.Sound) (ht : s.isTornDown = false)
    (hn : ∀ m ∈ s.queue.head?, s.state.isReset m = true →
      s.state.generation.number.toNat + 1 < UInt64.size) : s.take.Sound := by
  cases hq : s.queue with
  | nil => simpa [Store.take, hq] using hs
  | cons m rest =>
    rw [take_eq_apply ht hq]
    refine sound_apply (hs.wired.of_eq rfl rfl rfl rfl) hs.coherent ?_ hs.current ?_
      (hn m (by simp [hq]))
    · exact hs.tracks.perm (perm_tags_take hq)
    · exact hs.timed.mono fun m hm => hq ▸ hm

end Sound

theorem sound_happen {s : Store ε F} (hs : s.Sound) (e : Event ε F)
    (ht : (s.happen e).isTornDown = false)
    (hn : s.state.generation.number.toNat + s.state.resets (s.applied e) < UInt64.size) :
    (s.happen e).Sound := by
  have hs' : s.isTornDown = false := isTornDown_of_happen ht
  have hreset : ∀ m, s.dispatched m = [m] := fun m => by simp [dispatched, hs']
  cases e with
  | perform operation =>
    refine hs.perform hs' operation fun hr => ?_
    simpa [applied, hreset, ListState.resets, hr] using hn
  | tearDown => simp [happen, isTornDown_tearDown] at ht
  | cancel => simp [happen, cancel, isTornDown] at ht
  | wait ms => exact ⟨hs.wired.of_eq rfl rfl rfl rfl, hs.coherent, hs.tracks, hs.current, hs.timed⟩
  | respond call outcome => exact hs.respond call outcome
  | finish place => exact hs.finish place
  | abandon place =>
    have hcancelled : s.cancelled = false := by
      simp only [isTornDown, Bool.or_eq_false_iff] at hs'
      exact hs'.2
    simpa [happen, abandon, hcancelled] using hs
  | take =>
    refine hs.take hs' fun m hm hr => ?_
    simp only [applied, Option.mem_def.1 hm, Option.elim_some, hreset] at hn
    simpa [ListState.resets, hr] using hn

theorem sound_run {s : Store ε F} (hs : s.isTornDown = false → s.Sound) (es : List (Event ε F))
    (hn : s.state.generation.number.toNat + s.state.resets (s.messages es) < UInt64.size)
    (ht : (s.run es).isTornDown = false) : (s.run es).Sound := by
  induction es generalizing s with
  | nil => exact hs ht
  | cons e es ih =>
    rw [messages, ListState.resets_append, ← happen_state] at hn
    have hnext : (s.happen e).isTornDown = false → (s.happen e).Sound := fun h =>
      sound_happen (hs (isTornDown_of_happen h)) e h (by omega)
    -- the generation takes over what the event adds to the resets, so the sum stays below the bound
    refine ih hnext ?_ ht
    rw [happen_state, ListState.toNat_generation_run _ _ (by omega), ← happen_state]
    omega

theorem sound_new (loader : Loader ε F) (settings : ListSettings) :
    (new loader settings : Store ε F).Sound := by
  have hfresh : (new loader { settings with initImmediately := false } : Store ε F).Sound := by
    refine ⟨⟨?_, ?_, ?_, ?_, ?_⟩, ListState.coherent_withFilters _ _, ⟨?_, rfl, ?_⟩, ?_,
      fun _ _ h => nomatch h⟩
    all_goals exact fun _ h => nomatch h
  exact new_induction hfresh
    (sound_happen hfresh _ rfl (show 0 + (1 + 0) < UInt64.size by decide))

/-- How often the list is reset in a run of a new store, from the beginning on. -/
def resets (loader : Loader ε F) (settings : ListSettings) (es : List (Event ε F)) : Nat :=
  let s : Store ε F := new loader settings
  (if settings.initImmediately then 1 else 0) + s.state.resets (s.messages es)

theorem generation_new (loader : Loader ε F) (settings : ListSettings) :
    (new loader settings : Store ε F).state.generation.number.toNat =
      if settings.initImmediately then 1 else 0 := by
  cases hi : settings.initImmediately <;> simp only [new, hi] <;> rfl

/-- Whatever happens to a store that is not told to stop, its list is loading exactly if one load or
queued answer is the awaited one, there is no load beside it, and filters that wait have their time
running or over. So something is always there that ends the loading or the waiting. -/
theorem awaited_is_under_way (loader : Loader ε F) (settings : ListSettings)
    (es : List (Event ε F)) (hn : resets loader settings es < UInt64.size) :
    let s : Store ε F := (new loader settings).run es
    s.isTornDown = false →
      (s.state.isLoading = true ↔
        (s.loads ++ s.answers).countP (fun r => s.state.awaits r.generation r.kind) = 1) ∧
      (∀ r ∈ s.loads, s.state.awaits r.generation r.kind = true) ∧
      (∀ g k result, s.state.awaits g k = true →
        (s.state.update (.pageLoaded g k result)).1.isLoading = false) ∧
      ∀ ticket filters, s.state.pending = some (ticket, filters) →
        ticket = s.state.lastTicket ∧
        (ticket ∈ s.timers ∨ .debounceElapsed ticket ∈ s.queue) ∧
        (s.state.update (.debounceElapsed ticket)).1.pending = none := by
  intro s ht
  have hs : s.Sound := by
    refine sound_run (fun _ => sound_new loader settings) es ?_ ht
    rw [generation_new]
    exact hn
  have hawaits : ∀ r ∈ s.loads ++ s.answers,
      s.state.awaits r.generation r.kind = decide (r.generation = s.state.generation) := by
    intro r hr
    rw [ListState.awaits]
    by_cases hg : r.generation = s.state.generation
    · simp [hg, hs.tracks.awaited r hr hg]
    · simp [hg]
  refine ⟨?_, ?_, fun g k result ha => hs.coherent.isLoading_of_awaits ha result, ?_⟩
  · rw [List.countP_congr fun r hr => by rw [hawaits r hr], hs.tracks.count]
    cases s.state.isLoading <;> simp
  · intro r hr
    rw [hawaits r (List.mem_append.2 (.inl hr))]
    exact decide_eq_true (hs.current r hr)
  · intro ticket filters hp
    obtain ⟨hlast, hmem⟩ := hs.timed ticket filters hp
    refine ⟨hlast, hmem, ?_⟩
    simp [ListState.update, ListState.elapse, hp, ListState.restart, ListState.touch]

/-- The first page is answered too late, while other filters are already on their way. -/
theorem late_answer_under_way :
    let settings : ListSettings := ⟨2, 300, true⟩
    let filters := FilterSet.empty.insert "category" (.string "RTS")
    let es : List (Event Game FilterSet) :=
      [.respond 0 (.answer (.ok ⟨[⟨7, "Doom"⟩], 9⟩)), .finish 0, .perform (.init none),
        .perform (.setFiltersDebounced filters)]
    let s : Store Game FilterSet := (new .scripted settings).run es
    resets .scripted settings es < UInt64.size ∧ s.isTornDown = false ∧
      (s.loads ++ s.answers).countP (fun r => s.state.awaits r.generation r.kind) = 1 ∧
      s.answers = [⟨⟨1⟩, .initial⟩] ∧ s.state.pending = some (1, filters) ∧
      (1 ∈ s.timers ∨ .debounceElapsed 1 ∈ s.queue) := by
  intro settings filters es s
  have hn : resets .scripted settings es < UInt64.size := by decide
  have ht : s.isTornDown = false := by decide
  have hl : s.state.isLoading = true := by decide
  have hp : s.state.pending = some (1, filters) := rfl
  obtain ⟨hcount, -, -, hpending⟩ := awaited_is_under_way .scripted settings es hn ht
  exact ⟨hn, ht, hcount.1 hl, by decide, hp, (hpending 1 filters hp).2.1⟩

end Store
end PagedList

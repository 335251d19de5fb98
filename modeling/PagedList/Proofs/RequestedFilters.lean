import PagedList.Game
import PagedList.Proofs.ListRun

/-! The filters that a list ends up with. They are always those that were set last, whether they wait
or not. Filters that wait take effect once, at the end of their own waiting time, and never after
others were set. -/
namespace PagedList

/-- The filters that a message sets, at once or after the waiting time. -/
def Message.filters? {ε F : Type} [EmptyCollection F] : Message ε F → Option F
  | .initRequested filters => filters
  | .filtersChanged filters | .filtersDebounced filters => some filters
  | .filtersCleared => some ∅
  | .paginateRequested | .debounceElapsed _ | .entityEdited _ | .pageLoaded .. | .tornDown => none

namespace ListState

variable {ε F : Type} [Entity ε] [EmptyCollection F]

/-- Whether anything comes of the end of the waiting time of a ticket. -/
def Heeds (s : ListState ε F) (ticket : Nat) : Prop :=
  s.update (.debounceElapsed ticket) ≠ (s, .none)

theorem update_debounceElapsed {s : ListState ε F} {ticket : Nat} {filters : F}
    (h : s.pending = some (ticket, filters)) :
    s.update (.debounceElapsed ticket) =
      ({ s with filters := filters, pending := none } : ListState ε F).restart := by
  simp [update, elapse, h]

omit [EmptyCollection F] in
theorem ignores_debounceElapsed {s : ListState ε F} {ticket : Nat} :
    s.ignores (.debounceElapsed ticket) = false ↔
      ∃ filters, s.pending = some (ticket, filters) := by
  cases hp : s.pending with
  | none => simp [ignores, hp]
  | some p => simp [ignores, hp, Prod.ext_iff]

theorem heeds_iff {s : ListState ε F} {ticket : Nat} :
    s.Heeds ticket ↔ ∃ filters, s.pending = some (ticket, filters) := by
  rw [← ignores_debounceElapsed]
  cases hi : s.ignores (.debounceElapsed ticket) with
  | true => simp [Heeds, update_eq_of_ignores hi]
  | false =>
    obtain ⟨filters, hp⟩ := ignores_debounceElapsed.1 hi
    have hcommand : (s.update (.debounceElapsed ticket)).2 ≠ .none := by
      rw [update_debounceElapsed hp]
      exact fun h => nomatch h
    simp only [iff_true]
    exact fun h => hcommand (congrArg Prod.snd h)

instance (s : ListState ε F) (ticket : Nat) : Decidable (s.Heeds ticket) :=
  decidable_of_iff (s.pending.any (·.1 == ticket) = true) (by
    rw [heeds_iff, ← ignores_debounceElapsed]
    simp [ignores])

/-- Filters wait after a message if it has just put them off, or if they waited before and it neither
sets filters nor ends their waiting time. -/
theorem Step.pending_eq_some_iff {s t : ListState ε F} {m : Message ε F} {c : Command F}
    (h : s.Step m t c) (hm : m ≠ .tornDown) {ticket : Nat} {filters : F} :
    t.pending = some (ticket, filters) ↔
      (m = .filtersDebounced filters ∧ ticket = s.lastTicket + 1) ∨
        m.filters? = none ∧ m ≠ .debounceElapsed ticket ∧ s.pending = some (ticket, filters) := by
  cases h with
  | renewed h =>
    cases m with
    | initRequested given => cases given <;> cases h <;> simp [Message.filters?]
    | filtersChanged | filtersCleared =>
      cases h
      simp [Message.filters?]
    | debounceElapsed ended =>
      obtain ⟨p, hp, hpair⟩ := Option.map_eq_some_iff.1 h
      obtain ⟨hp, ht⟩ := Option.filter_eq_some_iff.1 hp
      cases hpair
      -- whatever has waited did so for this ticket
      have hended : s.pending = some (ticket, filters) → ended = ticket := fun h => by
        rw [hp, Option.some.injEq] at h
        rw [← eq_of_beq ht, h]
      simp only [reduceCtorEq, false_and, false_or, false_iff, Message.filters?, true_and]
      exact fun ⟨hne, hw⟩ => hne (by rw [hended hw])
    | paginateRequested | filtersDebounced | entityEdited | pageLoaded | tornDown => cases h
  | debounced given =>
    simp only [Message.filters?, Option.some.injEq, Prod.mk.injEq, Message.filtersDebounced.injEq,
      reduceCtorEq, false_and, or_false]
    exact ⟨fun ⟨ht, hf⟩ => ⟨hf, ht.symm⟩, fun ⟨hf, ht⟩ => ⟨ht.symm, hf⟩⟩
  | asked | edited | loaded | failed => simp [Message.filters?]
  | tornDown => exact absurd rfl hm
  | ignored h =>
    have hne : s.pending = some (ticket, filters) → m ≠ .debounceElapsed ticket := fun hp he => by
      rw [he, ignores_debounceElapsed.2 ⟨filters, hp⟩] at h
      cases h
    have hnone : m.filters? = none := by cases m <;> first | rfl | cases h
    have hdebounced : m ≠ .filtersDebounced filters := fun he => by simp [he, ignores] at h
    simp only [hdebounced, false_and, false_or, hnone, true_and]
    exact ⟨fun hp => ⟨hne hp, hp⟩, fun hp => hp.2⟩

theorem Step.eq_of_scheduleDebounce {s t : ListState ε F} {m : Message ε F} {ticket : Nat}
    (h : s.Step m t (.scheduleDebounce ticket)) :
    (∃ filters, m = .filtersDebounced filters) ∧ ticket = s.lastTicket + 1 := by
  cases h with
  | debounced filters => exact ⟨⟨filters, rfl⟩, rfl⟩

theorem pending_of_update {s : ListState ε F} {m : Message ε F} {ticket : Nat} {filters : F}
    (hp : (s.update m).1.pending = some (ticket, filters)) :
    (m = .filtersDebounced filters ∧ ticket = s.lastTicket + 1) ∨
      m.filters? = none ∧ m ≠ .debounceElapsed ticket ∧ s.pending = some (ticket, filters) := by
  by_cases hm : m = .tornDown
  · rw [hm] at hp
    cases hp
  · exact ((s.step_update m).pending_eq_some_iff hm).1 hp

theorem Step.requestedFilters_eq {s t : ListState ε F} {m : Message ε F} {c : Command F}
    (h : s.Step m t c) (hm : m ≠ .tornDown) :
    t.requestedFilters = (m.filters?).getD s.requestedFilters := by
  cases h with
  | renewed h =>
    cases m with
    | initRequested given => cases given <;> cases h <;> rfl
    | filtersChanged | filtersCleared =>
      cases h
      rfl
    | debounceElapsed ended =>
      obtain ⟨p, hp, hpair⟩ := Option.map_eq_some_iff.1 h
      have hwaited : s.requestedFilters = p.2 := by
        rw [requestedFilters, (Option.filter_eq_some_iff.1 hp).1]
      cases hpair
      exact hwaited.symm
    | paginateRequested | filtersDebounced | entityEdited | pageLoaded | tornDown => cases h
  | asked | debounced | edited | loaded | failed => rfl
  | tornDown => exact absurd rfl hm
  | ignored h =>
    have hnone : m.filters? = none := by cases m <;> first | rfl | cases h
    rw [hnone]
    rfl

theorem Step.lastTicket_le {s t : ListState ε F} {m : Message ε F} {c : Command F}
    (h : s.Step m t c) : s.lastTicket ≤ t.lastTicket := by
  cases h with
  | debounced => exact Nat.le_succ _
  | _ => exact Nat.le_refl _

theorem lastTicket_le_run (s : ListState ε F) (ms : List (Message ε F)) :
    s.lastTicket ≤ (s.run ms).lastTicket :=
  run_induction (P := fun t => s.lastTicket ≤ t.lastTicket)
    (fun t m ht => Nat.le_trans ht (t.step_update m).lastTicket_le) (Nat.le_refl _) ms

theorem requestedFilters_run (s : ListState ε F) {ms : List (Message ε F)}
    (hms : .tornDown ∉ ms) :
    (s.run ms).requestedFilters =
      (ms.filterMap Message.filters?).getLast?.getD s.requestedFilters := by
  induction ms generalizing s with
  | nil => rfl
  | cons m ms ih =>
    rw [List.mem_cons, not_or] at hms
    obtain ⟨hm, hrest⟩ := hms
    rw [run_cons, ih _ hrest, (s.step_update m).requestedFilters_eq (Ne.symm hm)]
    cases hset : m.filters? with
    | none => simp [hset]
    | some filters => simp [hset, List.getLast?_cons]

/-- Whether messages neither set filters nor bring the waiting for a ticket to its end. -/
def Spares (s : ListState ε F) (ms : List (Message ε F)) (ticket : Nat) : Prop :=
  (∀ m ∈ ms, m.filters? = none) ∧
    ∀ before after, ms = before ++ .debounceElapsed ticket :: after →
      ¬(s.run before).Heeds ticket

/-- Whether among some messages there is one that puts off these filters with this ticket, and those
after it leave them waiting. -/
def Due (s : ListState ε F) (ms : List (Message ε F)) (ticket : Nat) (filters : F) : Prop :=
  ∃ before after, ms = before ++ .filtersDebounced filters :: after ∧
    ((s.run before).update (.filtersDebounced filters)).2 = .scheduleDebounce ticket ∧
    (s.run (before ++ [.filtersDebounced filters])).Spares after ticket

theorem spares_cons {s : ListState ε F} {m : Message ε F} {ms : List (Message ε F)} {ticket : Nat} :
    s.Spares (m :: ms) ticket ↔
      m.filters? = none ∧ (m = .debounceElapsed ticket → ¬s.Heeds ticket) ∧
        (s.update m).1.Spares ms ticket := by
  constructor
  · rintro ⟨hset, hended⟩
    refine ⟨hset m List.mem_cons_self, fun hm => ?_, fun n hn => ?_, fun before after h => ?_⟩
    · exact hended [] ms (by rw [hm, List.nil_append])
    · exact hset n (List.mem_cons_of_mem m hn)
    · exact hended (m :: before) after (by rw [h, List.cons_append])
  · rintro ⟨hm, hfirst, hset, hended⟩
    refine ⟨List.forall_mem_cons.2 ⟨hm, hset⟩, fun before after h => ?_⟩
    rcases List.cons_eq_append_iff.1 h with ⟨rfl, hnow⟩ | ⟨rest, rfl, hlater⟩
    · exact hfirst (List.cons.inj hnow).1.symm
    · exact hended rest after hlater

theorem due_cons {s : ListState ε F} {m : Message ε F} {ms : List (Message ε F)} {ticket : Nat}
    {filters : F} :
    s.Due (m :: ms) ticket filters ↔
      (m = .filtersDebounced filters ∧ ticket = s.lastTicket + 1 ∧
          (s.update m).1.Spares ms ticket) ∨
        (s.update m).1.Due ms ticket filters := by
  constructor
  · rintro ⟨before, after, h, hticket, hspares⟩
    rcases List.cons_eq_append_iff.1 h with ⟨rfl, hnow⟩ | ⟨rest, rfl, hlater⟩
    · obtain ⟨rfl, rfl⟩ := List.cons.inj hnow
      exact .inl ⟨rfl, (Command.scheduleDebounce.inj hticket).symm, hspares⟩
    · exact .inr ⟨rest, after, hlater, hticket, hspares⟩
  · rintro (⟨rfl, rfl, hspares⟩ | ⟨before, after, rfl, hticket, hspares⟩)
    · exact ⟨[], ms, rfl, rfl, hspares⟩
    · exact ⟨m :: before, after, rfl, hticket, hspares⟩

/-- The filters that wait after some messages were put off among them and left waiting since, or
have waited before and were left waiting by all of them. -/
theorem pending_run_eq_some_iff {s : ListState ε F} {ms : List (Message ε F)}
    (hms : .tornDown ∉ ms) {ticket : Nat} {filters : F} :
    (s.run ms).pending = some (ticket, filters) ↔
      s.Due ms ticket filters ∨ s.pending = some (ticket, filters) ∧ s.Spares ms ticket := by
  induction ms generalizing s with
  | nil => simp [Due, Spares]
  | cons m ms ih =>
    rw [List.mem_cons, not_or] at hms
    obtain ⟨hm, hrest⟩ := hms
    have hheeds : s.pending = some (ticket, filters) → s.Heeds ticket :=
      fun hp => heeds_iff.2 ⟨filters, hp⟩
    rw [run_cons, ih hrest, (s.step_update m).pending_eq_some_iff (Ne.symm hm), due_cons,
      spares_cons]
    grind

theorem pending_of_run {s : ListState ε F} {ms : List (Message ε F)}
    (hms : ∀ m ∈ ms, ∀ filters, m ≠ .filtersDebounced filters) {ticket : Nat} {filters : F}
    (hp : (s.run ms).pending = some (ticket, filters)) : s.pending = some (ticket, filters) := by
  induction ms generalizing s with
  | nil => exact hp
  | cons m ms ih =>
    obtain ⟨hm, hrest⟩ := List.forall_mem_cons.1 hms
    rcases pending_of_update (ih hrest hp) with ⟨hput, -⟩ | ⟨-, -, hwaits⟩
    · exact absurd hput (hm filters)
    · exact hwaits

/-- A ticket that was given out and that no filters wait for. -/
structure Spent (s : ListState ε F) (ticket : Nat) : Prop where
  given : ticket ≤ s.lastTicket
  gone : ∀ filters, s.pending ≠ some (ticket, filters)

theorem Spent.not_heeds {s : ListState ε F} {ticket : Nat} (h : s.Spent ticket) :
    ¬s.Heeds ticket := fun hheeds => by
  obtain ⟨filters, hp⟩ := heeds_iff.1 hheeds
  exact h.gone filters hp

/-- A ticket is spent at the end of its waiting time, or as soon as other filters are set, and it is
not given out again. -/
theorem spent_update {s : ListState ε F} {m : Message ε F} {ticket : Nat}
    (hle : ticket ≤ s.lastTicket)
    (h : s.Spent ticket ∨ m.filters? ≠ none ∨ m = .debounceElapsed ticket) :
    (s.update m).1.Spent ticket := by
  refine ⟨Nat.le_trans hle (s.step_update m).lastTicket_le, fun filters hp => ?_⟩
  rcases pending_of_update hp with ⟨-, hnew⟩ | ⟨hset, hended, hwaits⟩
  · omega
  · rcases h with h | h | h
    · exact h.gone filters hwaits
    · exact h hset
    · exact hended h

theorem Spent.run {s : ListState ε F} {ticket : Nat} (h : s.Spent ticket)
    (ms : List (Message ε F)) : (s.run ms).Spent ticket :=
  run_induction (P := fun s => s.Spent ticket) (fun _ _ hs => spent_update hs.given (.inl hs)) h ms

def Ticketed (s : ListState ε F) : Prop :=
  ∀ ticket filters, s.pending = some (ticket, filters) → ticket ≤ s.lastTicket

theorem Ticketed.update {s : ListState ε F} (hs : s.Ticketed) (m : Message ε F) :
    (s.update m).1.Ticketed := by
  intro ticket filters hp
  rcases pending_of_update hp with ⟨rfl, rfl⟩ | ⟨-, -, hwaits⟩
  · exact Nat.le_refl _
  · exact Nat.le_trans (hs ticket filters hwaits) (s.step_update m).lastTicket_le

/-- In every run that is not torn down, the requested filters are those that were set last, or those
of the beginning. The end of the waiting time of a ticket has an effect exactly if the filters that
were put off with it are due: the list is then loaded anew with them. That happens at most once, and
never after other filters were set. -/
theorem last_filters_take_effect_once (limit : Nat) (filters : F) (ms : List (Message ε F))
    (hms : .tornDown ∉ ms) :
    let start : ListState ε F := withFilters limit filters
    let s := start.run ms
    s.requestedFilters = (ms.filterMap Message.filters?).getLast?.getD filters ∧
      (∀ ticket, s.Heeds ticket ↔ ∃ given, start.Due ms ticket given) ∧
      (∀ ticket given, start.Due ms ticket given →
        s.update (.debounceElapsed ticket) =
          ({ s with filters := given, pending := none } : ListState ε F).restart) ∧
      (∀ ticket ns, s.Heeds ticket → ¬(s.run (.debounceElapsed ticket :: ns)).Heeds ticket) ∧
      ∀ before given after ticket, ms = before ++ .filtersDebounced given :: after →
        ((start.run before).update (.filtersDebounced given)).2 = .scheduleDebounce ticket →
        (∃ m ∈ after, m.filters? ≠ none) → ¬s.Heeds ticket := by
  intro start s
  have hdue : ∀ ticket given, s.pending = some (ticket, given) ↔ start.Due ms ticket given := by
    intro ticket given
    have hnone : start.pending ≠ some (ticket, given) := fun h => nomatch h
    rw [pending_run_eq_some_iff hms]
    exact or_iff_left fun h => hnone h.1
  have hstart : start.Ticketed := fun ticket given h => by cases h
  have hticketed : s.Ticketed := run_induction (P := Ticketed) (fun _ m hs => hs.update m) hstart ms
  refine ⟨requestedFilters_run start hms, fun ticket => ?_, fun ticket given h => ?_,
    fun ticket ns h => ?_, fun before given after ticket hsplit hticket hnewer => ?_⟩
  · exact heeds_iff.trans (exists_congr (hdue ticket))
  · exact update_debounceElapsed ((hdue ticket given).2 h)
  · obtain ⟨given, hp⟩ := heeds_iff.1 h
    rw [run_cons]
    exact ((spent_update (hticketed ticket given hp) (.inr (.inr rfl))).run ns).not_heeds
  · obtain ⟨m, hm, hset⟩ := hnewer
    obtain ⟨earlier, later, rfl⟩ := List.append_of_mem hm
    let put := ((start.run before).update (.filtersDebounced given)).1
    let t := put.run earlier
    have hgiven : ticket ≤ t.lastTicket := by
      rw [← Command.scheduleDebounce.inj hticket]
      exact put.lastTicket_le_run earlier
    have hrun : s = (t.update m).1.run later := by
      simp [s, t, put, hsplit]
    rw [hrun]
    exact ((spent_update hgiven (.inr (.inl hset))).run later).not_heeds

/-- A reset and the end of another waiting time leave the filters waiting that were put off. -/
theorem filters_put_off_under_way :
    let filters := FilterSet.empty.insert "category" (.string "RTS")
    let ms : List (Message Game FilterSet) :=
      [.filtersDebounced filters, .initRequested none, .debounceElapsed 7]
    let s : ListState Game FilterSet := (withFilters 2 ∅).run ms
    .tornDown ∉ ms ∧ s.requestedFilters = filters ∧ s.Heeds 1 ∧
      ¬(s.run [.debounceElapsed 1]).Heeds 1 := by
  intro filters ms s
  have hms : .tornDown ∉ ms := by simp [ms]
  have hheeds : s.Heeds 1 := heeds_iff.2 ⟨filters, rfl⟩
  obtain ⟨hrequested, -, -, honce, -⟩ := last_filters_take_effect_once 2 ∅ ms hms
  exact ⟨hms, hrequested, hheeds, honce 1 [] hheeds⟩

end ListState
end PagedList

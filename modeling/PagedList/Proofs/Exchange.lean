import PagedList.Game
import PagedList.Proofs.Coherence

/-! A list and those who answer its loads. An answer carries only the generation and the kind of
its load, which several loads may share; that it is taken for the answer to the right one follows
from what is still unanswered. -/
namespace PagedList

/-- A load that was asked for, and whether an answer to it has come. -/
structure Request (F : Type) where
  generation : Generation
  kind : LoadKind
  params : PageParams F
  answered : Bool

def Command.requests {F : Type} : Command F → List (Request F)
  | .loadPage generation kind params => [⟨generation, kind, params, false⟩]
  | _ => []

def Message.isResponse {ε F : Type} : Message ε F → Bool
  | .pageLoaded .. => true
  | _ => false

namespace ListState

variable {ε F : Type} [Entity ε]

/-- Some messages to a list and the loads that it asked for, in order. Answers may come late, out
of order or never, but each belongs to one of the loads, and no load is answered twice. -/
inductive Exchange [EmptyCollection F] (s : ListState ε F) :
    List (Message ε F) → List (Request F) → Prop
  | start : Exchange s [] []
  | message {ms rs m} (h : Exchange s ms rs) (hm : m.isResponse = false) :
    Exchange s (ms ++ [m]) (rs ++ ((s.run ms).update m).2.requests)
  | answer {ms rs i r} (h : Exchange s ms rs) (hi : rs[i]? = some r) (hr : r.answered = false)
      (result : Except LoadError (Page ε)) :
    Exchange s (ms ++ [.pageLoaded r.generation r.kind result])
      (rs.set i { r with answered := true })

/-- Whatever is unanswered of the current generation is the latest load; it is awaited, and it asks
for what the list needs next. -/
structure Accounted (s : ListState ε F) (rs : List (Request F)) : Prop where
  latest : ∀ {i : Nat} {r : Request F}, rs[i]? = some r → r.answered = false →
    r.generation = s.generation → i + 1 = rs.length ∧ s.pagination.isLoadingKind r.kind = true ∧
      r.params.filters = s.filters ∧ r.params.skip = s.list.length
  old : ∀ r ∈ rs, r.generation.number.toNat ≤ s.generation.number.toNat

/-- Everything that was asked for in the current generation is answered. -/
def Settled (s : ListState ε F) (rs : List (Request F)) : Prop :=
  ∀ r ∈ rs, r.generation = s.generation → r.answered = true

namespace Accounted

variable {s t : ListState ε F} {rs : List (Request F)}

theorem of_settled (hs : s.Settled rs)
    (hold : ∀ r ∈ rs, r.generation.number.toNat ≤ s.generation.number.toNat) : s.Accounted rs where
  latest hi hr hg := by simp [hs _ (List.mem_of_getElem? hi) hg] at hr
  old := hold

theorem settled (hs : s.Accounted rs) (hk : ∀ k, s.pagination.isLoadingKind k = false) :
    s.Settled rs := by
  intro r hr hg
  obtain ⟨i, hi⟩ := List.mem_iff_getElem?.1 hr
  cases ha : r.answered with
  | true => rfl
  | false => simpa [hk] using (hs.latest hi ha hg).2.1

theorem next (hs : s.Accounted rs) (hn : s.generation.number.toNat + 1 < UInt64.size)
    (hg : t.generation = s.generation.next) :
    t.Settled rs ∧ ∀ r ∈ rs, r.generation.number.toNat ≤ t.generation.number.toNat := by
  have hnext : ∀ r ∈ rs, r.generation ≠ t.generation ∧
      r.generation.number.toNat ≤ t.generation.number.toNat := fun r hr => by
    rw [hg]
    exact Generation.ne_next_of_le (hs.old r hr) hn
  exact ⟨fun r hr he => absurd he (hnext r hr).1, fun r hr => (hnext r hr).2⟩

theorem concat {r : Request F} (hs : s.Settled rs)
    (hold : ∀ r ∈ rs, r.generation.number.toNat ≤ s.generation.number.toNat)
    (hg : r.generation = s.generation) (hk : s.pagination.isLoadingKind r.kind = true)
    (hf : r.params.filters = s.filters) (hskip : r.params.skip = s.list.length) :
    s.Accounted (rs ++ [r]) where
  latest {i q} hi hq hgen := by
    rcases getElem?_concat_eq_some_iff.1 hi with hi | ⟨rfl, rfl⟩
    · simp [hs q (List.mem_of_getElem? hi) hgen] at hq
    · exact ⟨by simp, hk, hf, hskip⟩
  old q hq := by
    rcases List.mem_append.1 hq with hq | hq
    · exact hold q hq
    · exact Nat.le_of_eq (by rw [List.mem_singleton.1 hq, hg])

/-- What does not touch the loads, the filters or the length of the list keeps the account. -/
theorem congr (hs : s.Accounted rs) (hg : t.generation = s.generation)
    (hp : t.pagination = s.pagination) (hf : t.filters = s.filters)
    (hl : t.list.length = s.list.length) : t.Accounted rs where
  latest hi hr h := by
    rw [hp, hf, hl]
    exact hs.latest hi hr (h.trans hg)
  old r hr := by
    rw [hg]
    exact hs.old r hr

theorem getElem?_set_answered {i j : Nat} {r q : Request F} (hi : rs[i]? = some r)
    (hj : (rs.set i { r with answered := true })[j]? = some q) (hq : q.answered = false) :
    j ≠ i ∧ rs[j]? = some q := by
  by_cases hij : i = j
  · subst hij
    rw [List.getElem?_set_self (List.getElem?_eq_some_iff.1 hi).1, Option.some.injEq] at hj
    simp [← hj] at hq
  · rw [List.getElem?_set_ne hij] at hj
    exact ⟨Ne.symm hij, hj⟩

theorem old_set {i : Nat} {r : Request F} (hs : s.Accounted rs) (hi : rs[i]? = some r) :
    ∀ q ∈ rs.set i { r with answered := true },
      q.generation.number.toNat ≤ s.generation.number.toNat := by
  intro q hq
  rcases List.mem_or_eq_of_mem_set hq with hq | rfl
  · exact hs.old q hq
  · exact hs.old r (List.mem_of_getElem? hi)

theorem set {i : Nat} {r : Request F} (hs : s.Accounted rs) (hi : rs[i]? = some r) :
    s.Accounted (rs.set i { r with answered := true }) where
  latest {j q} hj hq hg := by
    rw [List.length_set]
    exact hs.latest (getElem?_set_answered hi hj hq).2 hq hg
  old := hs.old_set hi

theorem settled_set {i : Nat} {r : Request F} (hs : s.Accounted rs) (hi : rs[i]? = some r)
    (hr : r.answered = false) (hg : r.generation = s.generation) :
    s.Settled (rs.set i { r with answered := true }) := by
  intro q hq hgen
  obtain ⟨j, hj⟩ := List.mem_iff_getElem?.1 hq
  cases ha : q.answered with
  | true => rfl
  | false =>
    obtain ⟨hne, hj⟩ := getElem?_set_answered hi hj ha
    have hlast := (hs.latest hi hr hg).1
    have hlast' := (hs.latest hj ha hgen).1
    omega

end Accounted

variable [EmptyCollection F]

theorem Step.accounted {s t : ListState ε F} {m : Message ε F} {c : Command F}
    {rs : List (Request F)} (h : s.Step m t c) (hm : m.isResponse = false) (hc : s.Coherent)
    (hn : s.isReset m = true → s.generation.number.toNat + 1 < UInt64.size) (hs : s.Accounted rs) :
    t.Accounted (rs ++ c.requests) := by
  have hg := h.generation_eq
  cases h with
  | renewed h =>
    have hr := isReset_of_renewal? h
    obtain ⟨hset, hold⟩ := hs.next (hn hr) (hg.trans (if_pos hr))
    exact .concat hset hold rfl rfl rfl rfl
  | asked h =>
    have hk := Pagination.isLoadingKind_of_canPaginate h
    exact .concat (hs.settled hk) hs.old rfl rfl rfl hc.cursor.skip_eq
  | debounced filters =>
    simp only [Command.requests, List.append_nil]
    exact hs.congr rfl rfl rfl rfl
  | @edited entity h =>
    simp only [Command.requests, List.append_nil]
    exact hs.congr rfl rfl rfl (EntitySet.size_replace s.entities entity)
  | loaded | failed => cases hm
  | tornDown =>
    obtain ⟨hset, hold⟩ := hs.next (hn rfl) hg
    simp only [Command.requests, List.append_nil]
    exact .of_settled hset hold
  | ignored h =>
    simp only [Command.requests, List.append_nil]
    exact hs

theorem Step.accounted_answer {s t : ListState ε F} {c : Command F} {rs : List (Request F)}
    {i : Nat} {r : Request F} {result : Except LoadError (Page ε)}
    (h : s.Step (.pageLoaded r.generation r.kind result) t c) (hi : rs[i]? = some r)
    (hr : r.answered = false) (hs : s.Accounted rs) :
    t.Accounted (rs.set i { r with answered := true }) := by
  have hset : s.awaits r.generation r.kind = true →
      s.Settled (rs.set i { r with answered := true }) := fun ha =>
    hs.settled_set hi hr (generation_eq_of_awaits ha)
  generalize hm : Message.pageLoaded r.generation r.kind result = m at h
  cases h with
  | loaded page ha =>
    cases hm
    exact .of_settled (hset ha) (hs.old_set hi)
  | failed e ha =>
    cases hm
    exact .of_settled (hset ha) (hs.old_set hi)
  | renewed h => simp [← hm, renewal?] at h
  | ignored => exact hs.set hi
  | _ => cases hm

theorem Exchange.accounted {limit : Nat} {filters : F} {ms : List (Message ε F)}
    {rs : List (Request F)} (h : Exchange (withFilters limit filters) ms rs)
    (hn : (withFilters limit filters : ListState ε F).resets ms < UInt64.size) :
    ((withFilters limit filters).run ms).Accounted rs := by
  induction h with
  | start => exact ⟨fun hi => by simp at hi, fun r hr => by simp at hr⟩
  | @message ms rs m h hm ih =>
    rw [resets_append] at hn
    rw [run_append]
    have hms : (withFilters limit filters : ListState ε F).resets ms < UInt64.size := by omega
    -- if the message is a reset, the bound counts it, and so its number is still a new one
    refine (step_update _ m).accounted hm (coherent_run limit filters ms) (fun hr => ?_) (ih hms)
    rw [toNat_generation_run_withFilters limit filters ms hms]
    simpa [resets, hr] using hn
  | @answer ms rs i r h hi hr result ih =>
    rw [resets_append] at hn
    rw [run_append]
    exact (step_update _ _).accounted_answer hi hr (ih (by omega))

/-- An answer that changes anything belongs to the latest load that was asked for, and that load
asked for what comes next under the present filters. -/
theorem accepted_answer_is_latest {limit : Nat} {filters : F} {ms : List (Message ε F)}
    {rs : List (Request F)} (h : Exchange (withFilters limit filters) ms rs)
    (hn : (withFilters limit filters : ListState ε F).resets ms < UInt64.size)
    {i : Nat} {r : Request F} (hi : rs[i]? = some r) (hr : r.answered = false)
    (result : Except LoadError (Page ε)) :
    let s : ListState ε F := (withFilters limit filters).run ms
    (s.update (.pageLoaded r.generation r.kind result)).1 ≠ s →
      i + 1 = rs.length ∧ r.params.filters = s.filters ∧ r.params.skip = s.list.length := by
  intro s hne
  have ha : s.awaits r.generation r.kind = true := update_pageLoaded_ne_iff.1 hne
  have hg : r.generation = s.generation := of_decide_eq_true (Bool.and_eq_true_iff.1 ha).1
  obtain ⟨hlast, -, hf, hskip⟩ := (h.accounted hn).latest hi hr hg
  exact ⟨hlast, hf, hskip⟩

/-- The answer for other filters is accepted after one that came too late. -/
theorem accepted_answer_after_late_one :
    let start : ListState Game FilterSet := withFilters 2 ∅
    let filters := FilterSet.empty.insert "category" (.string "RTS")
    let ms : List (Message Game FilterSet) :=
      [.initRequested none, .filtersChanged filters, .pageLoaded ⟨1⟩ .initial (.ok ⟨[⟨7, "Doom"⟩], 9⟩)]
    let rs : List (Request FilterSet) :=
      [⟨⟨1⟩, .initial, ⟨0, 2, ∅⟩, true⟩, ⟨⟨2⟩, .initial, ⟨0, 2, filters⟩, false⟩]
    let answer : Message Game FilterSet := .pageLoaded ⟨2⟩ .initial (.ok ⟨[⟨1, "StarCraft"⟩], 1⟩)
    Exchange start ms rs ∧ start.resets ms < UInt64.size ∧
      ((start.run ms).update answer).1 ≠ start.run ms ∧
      1 + 1 = rs.length ∧ filters = (start.run ms).filters ∧ 0 = (start.run ms).list.length := by
  intro start filters ms rs answer
  have h : Exchange start ms rs :=
    .answer (i := 0) (r := ⟨⟨1⟩, .initial, ⟨0, 2, ∅⟩, false⟩) (.message (.message .start rfl) rfl) rfl rfl _
  have hn : start.resets ms < UInt64.size := by decide
  have hne : ((start.run ms).update answer).1 ≠ start.run ms := fun he =>
    absurd (congrArg ListState.revision he) (by decide)
  exact ⟨h, hn, hne, accepted_answer_is_latest h hn (i := 1) rfl rfl _ hne⟩

end ListState
end PagedList

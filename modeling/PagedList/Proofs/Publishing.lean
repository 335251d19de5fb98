import PagedList.Game
import PagedList.Proofs.Replay
import PagedList.Proofs.StoreRun
import PagedList.Session

/-! What viewers see of a list. The snapshot that is out is always that of the state, because the
revision changes with everything that can be seen. The converse does not hold: some messages change
the revision and nothing else, and then the same snapshot is put out again. -/
namespace PagedList

theorem EntitySet.Indexed.contains_of_mem {ε : Type} [Entity ε] {s : EntitySet ε} (h : s.Indexed)
    {e : ε} (he : e ∈ s.toList) : s.contains (Entity.id e) = true := by
  obtain ⟨i, hi⟩ := List.mem_iff_getElem?.1 he
  have hid : s.ids[i]? = some (Entity.id e) := by simp [ids, hi]
  simp [contains, Std.HashMap.contains_eq_isSome_getElem?, (h _ i).2 hid]

theorem EntitySet.toList_replace_eq_self_iff {ε : Type} [Entity ε] {s : EntitySet ε}
    (h : s.Indexed) {e : ε} (he : s.contains (Entity.id e) = true) :
    (s.replace e).1.toList = s.toList ↔ e ∈ s.toList := by
  obtain ⟨i, hi⟩ : ∃ i, s.positions[Entity.id e]? = some i :=
    Option.isSome_iff_exists.1 (by simpa [contains] using he)
  have hset : (s.replace e).1.toList = s.toList.set i e := by simp [replace, hi, toList]
  have hlength : i < s.toList.length := by
    have hids := (List.getElem?_eq_some_iff.1 ((h _ i).1 hi)).1
    simpa [ids] using hids
  rw [hset]
  constructor
  · intro heq
    rw [← heq]
    exact List.mem_set hlength e
  · intro hm
    obtain ⟨j, hj⟩ := List.mem_iff_getElem?.1 hm
    have hid : s.ids[j]? = some (Entity.id e) := by simp [ids, hj]
    obtain rfl := (h.getElem?_eq_some_iff hi j).1 hid
    obtain ⟨hj', rfl⟩ := List.getElem?_eq_some_iff.1 hj
    exact List.set_getElem_self hj'

namespace ListState

variable {ε F : Type} [Entity ε] [EmptyCollection F]

/-- Messages that change the revision and nothing that can be seen. -/
inductive Redundant (s : ListState ε F) : Message ε F → Prop
  /-- The first page is asked for again while it is still awaited. -/
  | renewed {m} (h : (s.renewal? m).isSome = true) (hl : s.isInitialLoading = true) : Redundant s m
  /-- An entity is edited into what it is. -/
  | edited {entity} (h : entity ∈ s.list) : Redundant s (.entityEdited entity)
  /-- A list that shows nothing is thrown away. -/
  | tornDown (h : s.snapshot = Snapshot.blank) : Redundant s .tornDown

omit [EmptyCollection F] in
theorem Coherent.snapshot_eq {s : ListState ε F} (hs : s.Coherent)
    (hl : s.isInitialLoading = true) :
    s.snapshot = { Snapshot.blank with isInitialLoading := true } := by
  have htotal : s.pagination.total = none := (hs.cursor.blank hl).2
  have hmore : s.pagination.hasMore = true := by simp [hs.cursor.hasMore_eq, htotal]
  have hpaginating : s.pagination.isPaginating = false := hs.cursor.exclusive hl
  have hloading : s.pagination.isInitialLoading = true := hl
  simp [snapshot, Snapshot.blank, hs.list_eq_nil hl, hs.noError hl, total, hasNoData, hasMore,
    isPaginating, isInitialLoading, htotal, hmore, hpaginating, hloading]

namespace Step

variable {s t : ListState ε F} {m : Message ε F} {c : Command F}

/-- What can be seen changes only with the revision. -/
theorem snapshot_eq (h : s.Step m t c) (hr : t.revision = s.revision) :
    t.snapshot = s.snapshot := by
  cases h with
  | renewed | asked | edited | loaded | failed | tornDown => simp at hr
  | debounced | ignored => rfl

/-- A change of the revision that leaves all that can be seen as it is comes of a redundant
message. -/
theorem redundant (h : s.Step m t c) (hi : s.entities.Indexed) (hr : t.revision ≠ s.revision)
    (heq : t.snapshot = s.snapshot) : s.Redundant m := by
  have hloading : t.isInitialLoading = s.isInitialLoading := congrArg Snapshot.isInitialLoading heq
  have hpaginating : t.isPaginating = s.isPaginating := congrArg Snapshot.isPaginating heq
  have hkind : ∀ k, t.pagination.isLoadingKind k = s.pagination.isLoadingKind k := fun k => by
    cases k with
    | initial => exact hloading
    | more => exact hpaginating
  cases h with
  | renewed h => exact .renewed (by simp [h]) hloading.symm
  | asked h =>
    -- a list that asks for more was not loading
    have hidle := Pagination.isLoadingKind_of_canPaginate h .more
    rw [← hkind] at hidle
    cases hidle
  | debounced | ignored => exact absurd rfl hr
  | edited h =>
    have hlist : (s.entities.replace _).1.toList = s.list := congrArg Snapshot.list heq
    exact .edited ((EntitySet.toList_replace_eq_self_iff hi h).1 hlist)
  | @loaded g k page h =>
    -- the loading that the answer was awaited for is over
    have hawaited := isLoadingKind_of_awaits h
    rw [← hkind] at hawaited
    cases k <;> cases hawaited
  | @failed g k e h =>
    have hawaited := isLoadingKind_of_awaits h
    rw [← hkind] at hawaited
    cases k <;> cases hawaited
  | tornDown => exact .tornDown heq.symm

theorem of_redundant (h : s.Step m t c) (hc : s.Coherent) (hi : s.entities.Indexed)
    (hm : s.Redundant m) : t.revision ≠ s.revision ∧ t.snapshot = s.snapshot := by
  have hnext : s.revision + 1 ≠ s.revision := by simp
  cases hm with
  | renewed hr hl =>
    cases h with
    | renewed =>
      rw [hc.snapshot_eq hl]
      exact ⟨hnext, rfl⟩
    | ignored h =>
      obtain ⟨r, hr⟩ := Option.isSome_iff_exists.1 hr
      have hreset := isReset_of_renewal? hr
      rw [isReset_of_ignores h] at hreset
      cases hreset
    | asked | debounced | edited | loaded | failed | tornDown => cases hr
  | edited hmem =>
    cases h with
    | renewed h => cases h
    | edited h =>
      have hlist := (EntitySet.toList_replace_eq_self_iff hi h).2 hmem
      refine ⟨hnext, ?_⟩
      simp only [snapshot, list, hlist]
      rfl
    | ignored h => simp [ignores, hi.contains_of_mem hmem] at h
  | tornDown hblank =>
    cases h with
    | renewed h => cases h
    | tornDown => exact ⟨hnext, hblank.symm⟩
    | ignored h => cases h

end Step
end ListState

namespace Store

variable {ε F : Type} [Entity ε]

/-- What is out when a store has become another one by a single message or without any: a new
snapshot if the revision has changed, and otherwise the same one. -/
def Publishes (s t : Store ε F) : Prop :=
  if t.state.revision = s.state.revision then t.version = s.version ∧ t.published = s.published
  else t.version = s.version + 1 ∧ t.published = t.state.snapshot

theorem publishes_of_eq {s t : Store ε F} (hs : t.state = s.state) (hv : t.version = s.version)
    (hp : t.published = s.published) : s.Publishes t := by
  rw [Publishes, hs, if_pos rfl]
  exact ⟨hv, hp⟩

variable [EmptyCollection F]

theorem publishes_apply (s : Store ε F) (m : Message ε F) : s.Publishes (s.apply m) := by
  have hexecute := execute_eq { s with state := (s.state.update m).1 } (s.state.update m).2
  rw [Publishes, apply_state]
  split
  · rename_i h
    simp only [apply, h, if_true]
    rw [hexecute]
    exact ⟨rfl, rfl⟩
  · rename_i h
    simp only [apply, h, if_false, and_true]
    rw [hexecute]

theorem publishes_tearDown (s : Store ε F) : s.Publishes s.tearDown := by
  unfold tearDown
  split
  · exact publishes_of_eq rfl rfl rfl
  · exact publishes_apply { s with tornDown := true } .tornDown

theorem publishes_dispatch (s : Store ε F) (m : Message ε F) : s.Publishes (s.dispatch m) := by
  unfold dispatch
  split
  · exact publishes_tearDown s
  · exact publishes_apply s m

theorem publishes_happen (s : Store ε F) (e : Event ε F) : s.Publishes (s.happen e) := by
  cases e with
  | perform operation =>
    show s.Publishes (s.perform operation)
    rw [perform_eq_dispatch]
    exact publishes_dispatch s _
  | tearDown => exact publishes_tearDown s
  | take =>
    show s.Publishes s.take
    unfold take
    split
    · exact publishes_dispatch { s with queue := _ } _
    · exact publishes_of_eq rfl rfl rfl
  | cancel | wait | respond | finish | abandon =>
    rw [happen_eq_of_isOutside s rfl]
    exact publishes_of_eq rfl rfl rfl

omit [EmptyCollection F] in
theorem applied_eq_nil_or_singleton (s : Store ε F) (e : Event ε F) :
    s.applied e = [] ∨ ∃ m, s.applied e = [m] := by
  have hdispatched : ∀ m, s.dispatched m = [] ∨ ∃ m', s.dispatched m = [m'] := fun m => by
    unfold dispatched
    split
    · split <;> simp
    · simp
  cases e with
  | perform operation => exact hdispatched _
  | tearDown =>
    simp only [applied]
    split <;> simp
  | take =>
    simp only [applied]
    cases s.queue.head? with
    | none => exact .inl rfl
    | some m => exact hdispatched m
  | cancel | wait | respond | finish | abandon => exact .inl rfl

theorem exists_run_state_eq (loader : Loader ε F) (settings : ListSettings)
    (es : List (Event ε F)) :
    ∃ ms, ((new loader settings : Store ε F).run es).state =
      (ListState.withFilters settings.limit ∅).run ms := by
  let s : Store ε F := new loader settings
  have hstart : ∃ ms, s.state = (ListState.withFilters settings.limit ∅).run ms := by
    cases hi : settings.initImmediately with
    | false => exact ⟨[], by simp only [s, new, hi]; rfl⟩
    | true => exact ⟨[.initRequested none], by simp only [s, new, hi]; rfl⟩
  obtain ⟨ms, hms⟩ := hstart
  exact ⟨ms ++ s.messages es, by rw [ListState.run_append, ← hms]; exact run_state s es⟩

theorem coherent_run_new (loader : Loader ε F) (settings : ListSettings) (es : List (Event ε F)) :
    ((new loader settings : Store ε F).run es).state.Coherent := by
  obtain ⟨ms, hms⟩ := exists_run_state_eq loader settings es
  rw [hms]
  exact ListState.coherent_run _ _ ms

theorem indexed_run_new (loader : Loader ε F) (settings : ListSettings) (es : List (Event ε F)) :
    ((new loader settings : Store ε F).run es).state.entities.Indexed := by
  obtain ⟨ms, hms⟩ := exists_run_state_eq loader settings es
  rw [hms]
  exact ListState.indexed_run _ _ ms

theorem snapshot_happen {s : Store ε F} {e : Event ε F}
    (h : (s.happen e).state.revision = s.state.revision) :
    (s.happen e).state.snapshot = s.state.snapshot := by
  rw [happen_state] at h ⊢
  rcases s.applied_eq_nil_or_singleton e with he | ⟨m, he⟩
  · rw [he]
    rfl
  · rw [he] at h ⊢
    exact (s.state.step_update m).snapshot_eq h

/-- The snapshot that is out is that of the state. -/
def Current (s : Store ε F) : Prop := s.published = s.state.snapshot

theorem Current.happen {s : Store ε F} (hs : s.Current) (e : Event ε F) : (s.happen e).Current := by
  have h := s.publishes_happen e
  unfold Publishes at h
  split at h
  · rename_i hr
    exact h.2.trans (hs.trans (snapshot_happen hr).symm)
  · exact h.2

theorem current_new (loader : Loader ε F) (settings : ListSettings) :
    (new loader settings : Store ε F).Current := by
  cases hi : settings.initImmediately <;> simp only [Current, new, hi] <;> rfl

theorem Current.run {s : Store ε F} (hs : s.Current) (es : List (Event ε F)) :
    (s.run es).Current :=
  run_induction (fun _ e hs => hs.happen e) hs es

theorem published_run (s : Store ε F) (es : List (Event ε F)) :
    s.version ≤ (s.run es).version ∧
      ((s.run es).version = s.version → (s.run es).published = s.published) := by
  induction es generalizing s with
  | nil => exact ⟨Nat.le_refl _, fun _ => rfl⟩
  | cons e es ih =>
    obtain ⟨hle, heq⟩ := ih (s.happen e)
    rw [run_cons]
    have h := s.publishes_happen e
    unfold Publishes at h
    split at h
    · rw [h.1] at hle heq
      exact ⟨hle, fun hv => (heq hv).trans h.2⟩
    · exact ⟨by omega, fun hv => by omega⟩

/-- What was out before and is not out any more was followed by something that was put out. -/
theorem Current.version_lt {s : Store ε F} (hs : s.Current) {es : List (Event ε F)}
    (h : (s.run es).state.snapshot ≠ s.state.snapshot) : s.version < (s.run es).version := by
  obtain ⟨hle, heq⟩ := s.published_run es
  refine Nat.lt_of_le_of_ne hle fun hv => h ?_
  rw [← hs.run es, heq hv.symm, hs]

theorem Current.republishes_iff {s : Store ε F} (hs : s.Current) (e : Event ε F) :
    (s.happen e).version ≠ s.version ∧ (s.happen e).published = s.published ↔
      (s.happen e).state.revision ≠ s.state.revision ∧
        (s.happen e).state.snapshot = s.state.snapshot := by
  have h := s.publishes_happen e
  have hnext : s.version + 1 ≠ s.version := Nat.succ_ne_self _
  rw [← hs.happen e, ← hs]
  unfold Publishes at h
  split at h <;> simp [*]

/-- An event puts out what is out already exactly if it brings a redundant message to the state: the
first page is asked for again while it is still awaited, an entity is edited into what it is, or a
list that shows nothing is torn down. All else that is put out is new. -/
theorem publishes_the_same_iff (loader : Loader ε F) (settings : ListSettings)
    (es : List (Event ε F)) (e : Event ε F) :
    let s : Store ε F := (new loader settings).run es
    (s.happen e).version ≠ s.version ∧ (s.happen e).published = s.published ↔
      ∃ m ∈ s.applied e, s.state.Redundant m := by
  intro s
  have hs : s.Current := (current_new loader settings).run es
  have hc : s.state.Coherent := coherent_run_new loader settings es
  have hi : s.state.entities.Indexed := indexed_run_new loader settings es
  rw [hs.republishes_iff, happen_state]
  rcases s.applied_eq_nil_or_singleton e with he | ⟨m, he⟩
  · simp [he]
  · have hstep := s.state.step_update m
    simp only [he, List.mem_singleton, exists_eq_left]
    exact ⟨fun ⟨hr, heq⟩ => hstep.redundant hi hr heq, hstep.of_redundant hc hi⟩

/-- The first page is asked for twice, and viewers are told of the same snapshot twice. -/
theorem reset_while_loading_publishes_the_same :
    let s : Store Game FilterSet := (new .scripted ⟨2, 300, false⟩).run [.perform (.init none)]
    let t := s.happen (.perform (.init none))
    t.version = s.version + 1 ∧ t.published = s.published :=
  ⟨rfl, rfl⟩

end Store

/-- What can happen to a session whose watchers look at the snapshot whenever they like. -/
inductive Turn (ε F : Type) where
  | happen (event : Event ε F)
  | subscribe
  | observe (watcher : Nat)

/-- A session and, for each of its watchers, the snapshot that it saw last. -/
structure Audience (ε F : Type) [Entity ε] where
  session : Session ε F
  seen : List (Snapshot ε)

namespace Audience

variable {ε F : Type} [Entity ε] [EmptyCollection F]

def new (loader : Loader ε F) (settings : ListSettings) : Audience ε F where
  session := { store := Store.new loader settings, dropped := false, agenda := [], watchers := [] }
  seen := []

def turn (a : Audience ε F) : Turn ε F → Audience ε F
  | .happen e => { a with session := { a.session with store := a.session.store.happen e } }
  | .subscribe => ⟨a.session.subscribe, a.seen ++ [a.session.store.published]⟩
  | .observe watcher =>
    let (session, snapshot) := a.session.observe watcher
    ⟨session, a.seen.set watcher snapshot⟩

def run (a : Audience ε F) (ts : List (Turn ε F)) : Audience ε F := ts.foldl turn a

/-- Whoever has looked at a snapshot when so many had been put out, and none has been since, has
seen the one that is out. -/
structure Informed (a : Audience ε F) : Prop where
  current : a.session.store.Current
  looks : ∃ looks : List (Nat × Snapshot ε),
    a.session.watchers = looks.map Prod.fst ∧ a.seen = looks.map Prod.snd ∧
      ∀ look ∈ looks, look.1 ≤ a.session.store.version ∧
        (look.1 = a.session.store.version → look.2 = a.session.store.published)

theorem Informed.turn {a : Audience ε F} (ha : a.Informed) (t : Turn ε F) : (a.turn t).Informed := by
  obtain ⟨looks, hwatchers, hseen, hlooks⟩ := ha.looks
  let latest := (a.session.store.version, a.session.store.published)
  have hlatest : latest.1 ≤ a.session.store.version ∧
      (latest.1 = a.session.store.version → latest.2 = a.session.store.published) :=
    ⟨Nat.le_refl _, fun _ => rfl⟩
  cases t with
  | happen e =>
    refine ⟨ha.current.happen e, looks, hwatchers, hseen, fun look hlook => ?_⟩
    obtain ⟨hle, heq⟩ := hlooks look hlook
    obtain ⟨hle', heq'⟩ := a.session.store.published_run [e]
    -- if nothing is new after the event, nothing was put out with it
    refine ⟨Nat.le_trans hle hle', fun hv => ?_⟩
    have hsame : (a.session.store.happen e).version = a.session.store.version :=
      Nat.le_antisymm (hv ▸ hle) hle'
    exact (heq (hv.trans hsame)).trans (heq' hsame).symm
  | subscribe =>
    refine ⟨ha.current, looks ++ [latest], ?_, ?_, fun look hlook => ?_⟩
    · simp [Audience.turn, Session.subscribe, hwatchers, latest]
    · simp [Audience.turn, hseen, latest]
    · rcases List.mem_append.1 hlook with hlook | hlook
      · exact hlooks look hlook
      · exact List.mem_singleton.1 hlook ▸ hlatest
  | observe watcher =>
    refine ⟨ha.current, looks.set watcher latest, ?_, ?_, fun look hlook => ?_⟩
    · simp [Audience.turn, Session.observe, hwatchers, List.map_set, latest]
    · simp [Audience.turn, Session.observe, hseen, List.map_set, latest]
    · rcases List.mem_or_eq_of_mem_set hlook with hlook | rfl
      · exact hlooks look hlook
      · exact hlatest

theorem Informed.run {a : Audience ε F} (ha : a.Informed) (ts : List (Turn ε F)) :
    (a.run ts).Informed := by
  induction ts generalizing a with
  | nil => exact ha
  | cons t ts ih => exact ih (ha.turn t)

omit [EmptyCollection F] in
theorem Informed.getElem?_seen {a : Audience ε F} (ha : a.Informed) {watcher : Nat}
    (h : a.session.changed[watcher]? = some (some false)) :
    a.seen[watcher]? = some a.session.store.state.snapshot := by
  obtain ⟨looks, hwatchers, hseen, hlooks⟩ := ha.looks
  rw [Session.changed, hwatchers, List.map_map, List.getElem?_map, Option.map_eq_some_iff] at h
  obtain ⟨look, hlook, h⟩ := h
  have hversion : look.1 = a.session.store.version := by
    cases hd : a.session.dropped with
    | true => simp [hd] at h
    | false => simpa [hd] using h
  have hpublished := (hlooks look (List.mem_of_getElem? hlook)).2 hversion
  rw [hseen, List.getElem?_map, hlook, Option.map_some, hpublished, ha.current]

/-- Whatever happens to a store, the snapshot that is out is that of its state. So whatever changes
what can be seen puts out the new snapshot, and a watcher to whom nothing is new has seen the
snapshot that there is now. -/
theorem viewers_are_up_to_date (loader : Loader ε F) (settings : ListSettings)
    (ts : List (Turn ε F)) :
    let a : Audience ε F := (new loader settings).run ts
    let s := a.session.store
    s.published = s.state.snapshot ∧
    (∀ es, (s.run es).state.snapshot ≠ s.state.snapshot →
      s.version < (s.run es).version ∧ (s.run es).published = (s.run es).state.snapshot) ∧
    ∀ watcher : Nat, a.session.changed[watcher]? = some (some false) →
      a.seen[watcher]? = some s.state.snapshot := by
  intro a s
  have hnew : (new loader settings : Audience ε F).Informed :=
    ⟨Store.current_new loader settings, [], rfl, rfl, fun _ h => nomatch h⟩
  have ha : a.Informed := hnew.run ts
  exact ⟨ha.current, fun es h => ⟨ha.current.version_lt h, ha.current.run es⟩,
    fun watcher h => ha.getElem?_seen h⟩

end Audience
end PagedList

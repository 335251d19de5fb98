import Mathlib
import PagedList.Proofs.Settling
import PagedList.Walk

/-! Going through records page by page: how the list stands after every page, how many pages there
are, and what is loaded in the end. -/
namespace PagedList

open LinearSearch

theorem ListState.applyPage_ok {ε F : Type} [Entity ε] [EmptyCollection F] {s : ListState ε F}
    (hc : s.Coherent) (hi : s.entities.Indexed) {g : Generation} {k : LoadKind}
    (ha : s.awaits g k = true) (page : Page ε) :
    let t := s.applyPage g k (.ok page)
    t.list = putAll page.items s.list ∧ t.total = some page.total ∧ t.lastError = none ∧
      t.isLoading = false ∧ t.filters = s.filters ∧ t.limit = s.limit ∧ t.entities.Indexed := by
  intro t
  obtain ⟨hg, hk⟩ := Bool.and_eq_true_iff.1 ha
  have ht : t = { s with
      entities := (s.entities.merge page.items).1
      pagination := s.pagination.update
        (.pageReceived k (s.entities.merge page.items).1.size page.total)
      lastError := none
      revision := s.revision + 1 } := by
    simp [t, applyPage, of_decide_eq_true hg, hk, touch]
  have hidle : t.isLoading = false := hc.isLoading_of_awaits ha (.ok page)
  refine ⟨?_, ?_, ?_, hidle, ?_, ?_, ?_⟩
  · rw [ht]
    exact EntitySet.toList_merge hi page.items
  · rw [ht]
    cases k <;> rfl
  · rw [ht]
  · rw [ht]
  · rw [ht]
    cases k <;> rfl
  · rw [ht]
    exact EntitySet.indexed_merge hi page.items

namespace Walk

def passing (records : List Record) (filters : FilterSet) : List Record :=
  records.filter fun r => filters.admits r.fields

/-- Waiting comes to an end after something was done to the list. -/
def Settles (s : Session Record FilterSet) (f : Store Record FilterSet → Store Record FilterSet) :
    Prop :=
  ∃ ms, (s.onStore f).settle.2 = .ended true ms

variable {records : List Record} {latency limit : Nat} {filters : FilterSet} {w : Walk}

/-- How a walk stands once it has loaded a page: nothing is on its way, and the list knows how many
records pass the filters. -/
structure Standing (w : Walk) (records : List Record) (latency limit : Nat) (filters : FilterSet) :
    Prop where
  alone : w.session.Alone
  queue : w.store.queue = []
  loader : w.store.loader = .ofRecords records latency
  filters_eq : w.state.filters = filters
  limit_eq : w.state.limit = limit
  idle : w.state.isLoading = false
  indexed : w.state.entities.Indexed
  total_eq : w.state.total = some (passing records filters).length
  noError : w.state.lastError = none

/-- A list that asks for a page of the records and waits has put them in. -/
theorem standing_settled {s : Session Record FilterSet} (hs : s.Alone)
    (hl : s.store.loader = .ofRecords records latency) {m : Message Record FilterSet}
    {asked : ListState Record FilterSet} {g : Generation} {k : LoadKind} {skip : Nat}
    (hm : s.store.state.update m = (asked, .loadPage g k ⟨skip, limit, filters⟩))
    (hf : asked.filters = filters) (hlimit : asked.limit = limit) (hi : asked.entities.Indexed)
    (hp : asked.pending = none) (hq : ∀ a ∈ s.store.queue, asked.ignores a = true) (pages : Nat) :
    let w : Walk := ⟨settled s (·.dispatch m), pages⟩
    Settles s (·.dispatch m) ∧ w.Standing records latency limit filters ∧
      w.state.list = putAll (((passing records filters).drop skip).take limit) asked.list ∧
      w.store.calls = s.store.calls ++ [⟨skip, limit, filters⟩] := by
  intro w
  have hstep := s.store.state.step_update m
  have hcoherent := hstep.coherent hs.coherent
  rw [hm] at hstep hcoherent
  have hreply : s.store.loader.reply s.store.calls.length ⟨skip, limit, filters⟩ =
      .after latency (.answer (.ok (Page.ofRecords records ⟨skip, limit, filters⟩))) := by
    rw [hl]
    rfl
  obtain ⟨t, waited, hsettle, halone, hqueue, hstate, hcalls, hloader⟩ :=
    hs.settle_onStore (congrArg Prod.snd hm) (by rw [hm]; exact hp) (by rw [hm]; exact hq) hreply
  rw [hm] at hstate
  have hw : w.session = t := congrArg Prod.fst hsettle
  have hwstate : w.state =
      asked.applyPage g k (.ok (Page.ofRecords records ⟨skip, limit, filters⟩)) := by
    rw [state, store, hw, hstate]
    rfl
  obtain ⟨hlist, htotal, herror, hidle, hfilters, hlimit', hindexed⟩ :=
    ListState.applyPage_ok hcoherent hi hstep.awaits_of_loadPage
      (Page.ofRecords records ⟨skip, limit, filters⟩)
  rw [← hwstate] at hlist htotal herror hidle hfilters hlimit' hindexed
  refine ⟨⟨waited, congrArg Prod.snd hsettle⟩, ⟨hw ▸ halone, ?_, ?_, hfilters.trans hf,
    hlimit'.trans hlimit, hidle, hindexed, htotal, herror⟩, hlist, ?_⟩
  · rw [store, hw, hqueue]
  · rw [store, hw, hloader, hl]
  · rw [store, hw, hcalls]

theorem hasMore_of_goesOn {maxPages : Option Nat} (h : w.goesOn maxPages = true) :
    w.state.hasMore = true :=
  (Bool.and_eq_true_iff.1 (Bool.and_eq_true_iff.1 h).1).1

namespace Standing

theorem hasMore_eq (h : w.Standing records latency limit filters) :
    w.state.hasMore = decide (w.state.list.length < (passing records filters).length) := by
  have hmore := h.alone.coherent.cursor.hasMore_eq
  have htotal : w.session.store.state.pagination.total = some (passing records filters).length :=
    h.total_eq
  rw [htotal] at hmore
  exact hmore

theorem step (h : w.Standing records latency limit filters) (hmore : w.state.hasMore = true) :
    Settles w.session (·.paginate) ∧ w.step.Standing records latency limit filters ∧
      w.step.state.list =
        putAll (((passing records filters).drop w.state.list.length).take limit) w.state.list ∧
      w.step.store.calls = w.store.calls ++ [⟨w.state.list.length, limit, filters⟩] := by
  have hcan : w.state.pagination.canPaginate = true := by
    have hidle : w.state.pagination.isLoading = false := h.idle
    have hmore : w.state.pagination.hasMore = true := hmore
    simp [Pagination.canPaginate, hidle, hmore]
  have hskip : w.state.skip = w.state.list.length := h.alone.coherent.cursor.skip_eq
  have hupdate : w.state.update .paginateRequested =
      ({ w.state with
          pagination := w.state.pagination.update .loadingMoreStarted
          revision := w.state.revision + 1 },
        .loadPage w.state.generation .more ⟨w.state.list.length, limit, filters⟩) := by
    rw [← hskip, ← h.limit_eq, ← h.filters_eq]
    simp only [ListState.update, ListState.paginate, hcan, if_true]
    rfl
  refine standing_settled h.alone h.loader hupdate h.filters_eq h.limit_eq h.indexed
    h.alone.pending (fun a ha => ?_) (w.pages + 1)
  rw [show w.session.store.queue = [] from h.queue] at ha
  cases ha

theorem settles (h : w.Standing records latency limit filters) {maxPages : Option Nat}
    (hgoes : w.goesOn maxPages = true) : Settles w.session (·.paginate) :=
  (h.step (hasMore_of_goesOn hgoes)).1

theorem of_mem_pagesFrom (h : w.Standing records latency limit filters) {maxPages : Option Nat}
    {fuel : Nat} {v : Walk} (hv : v ∈ pagesFrom maxPages fuel w) :
    v.Standing records latency limit filters := by
  induction fuel generalizing w with
  | zero => exact List.mem_singleton.1 hv ▸ h
  | succ fuel ih =>
    rw [pagesFrom] at hv
    split at hv
    · rename_i hgoes
      rcases List.mem_cons.1 hv with rfl | hv
      · exact h
      · exact ih (h.step (hasMore_of_goesOn hgoes)).2.1 hv
    · exact List.mem_singleton.1 hv ▸ h

end Standing

theorem standing_start (records : List Record) (latency : Nat) (settings : ListSettings)
    (filters : FilterSet) :
    let limit := max settings.limit 1
    let w := start (.ofRecords records latency) settings filters
    Settles (Session.start (Store.new (.ofRecords records latency) settings))
        (·.init (some filters)) ∧
      w.Standing records latency limit filters ∧
      w.state.list = putAll ((passing records filters).take limit) [] ∧
      w.store.calls =
        (if settings.initImmediately then [⟨0, limit, ∅⟩] else []) ++ [⟨0, limit, filters⟩] := by
  intro limit w
  obtain ⟨halone, hloader, hlimit, hcalls, hqueue⟩ :=
    Session.alone_start (Loader.ofRecords records latency) settings fun _ _ => ⟨_, _, rfl⟩
  let s := Session.start (Store.new (Loader.ofRecords records latency) settings)
  have hupdate : s.store.state.update (.initRequested (some filters)) =
      ((s.store.state.replaceFilters filters).restart.1,
        .loadPage s.store.state.generation.next .initial ⟨0, limit, filters⟩) := by
    rw [← show s.store.state.limit = limit from hlimit]
    rfl
  have h := standing_settled halone hloader hupdate rfl hlimit EntitySet.indexed_empty rfl
    (fun a ha => hqueue a ha _ rfl) 1
  rw [hcalls] at h
  exact h

/-! Records without a repeated identifier -/

/-- How many pages there are to load: what `n` records fill, but at least one, and no more than
`maxPages` once there is one. -/
def pageCount (n limit : Nat) : Option Nat → Nat
  | none => max 1 (n ⌈/⌉ limit)
  | some maxPages => min (max 1 (n ⌈/⌉ limit)) (max 1 maxPages)

theorem lt_pageCount_iff (n : Nat) {limit : Nat} (hlimit : 0 < limit) {k : Nat} (hk : 1 ≤ k)
    (maxPages : Option Nat) :
    k < pageCount n limit maxPages ↔ k * limit < n ∧ maxPages.any (· ≤ k) = false := by
  have hfull : k < n ⌈/⌉ limit ↔ k * limit < n := by
    rw [← not_le, ceilDiv_le_iff_le_mul hlimit, not_le, Nat.mul_comm]
  cases maxPages with
  | none =>
    simp only [pageCount, lt_max_iff, Option.any_none, and_true, ← hfull]
    omega
  | some m =>
    simp only [pageCount, lt_min_iff, lt_max_iff, Option.any_some, decide_eq_false_iff_not, ← hfull]
    omega

/-- How a walk stands after so many pages of records without a repeated identifier, where the list
called its loader for something else before. -/
structure Reached (w : Walk) (records : List Record) (latency limit : Nat) (filters : FilterSet)
    (before : List (PageParams FilterSet)) (k : Nat) : Prop
    extends w.Standing records latency limit filters where
  pages_eq : w.pages = k
  list_eq : w.state.list = (passing records filters).take (k * limit)
  calls_eq : w.store.calls = before ++ (List.range k).map fun i => ⟨i * limit, limit, filters⟩

namespace Reached

variable {before : List (PageParams FilterSet)} {k : Nat} {maxPages : Option Nat}

theorem limit_pos (h : w.Reached records latency limit filters before k) : 0 < limit :=
  h.limit_eq ▸ h.alone.coherent.cursor.limit_pos

theorem hasMore_eq (h : w.Reached records latency limit filters before k) :
    w.state.hasMore = decide (k * limit < (passing records filters).length) := by
  rw [h.toStanding.hasMore_eq, h.list_eq, List.length_take]
  exact decide_eq_decide.2 (by omega)

theorem goesOn_eq (h : w.Reached records latency limit filters before k) (hk : 1 ≤ k)
    (maxPages : Option Nat) :
    w.goesOn maxPages = decide (k < pageCount (passing records filters).length limit maxPages) := by
  have hlt := lt_pageCount_iff (passing records filters).length h.limit_pos hk maxPages
  simp only [goesOn, h.hasMore_eq, h.noError, h.pages_eq, Option.isNone_none, Bool.and_true]
  cases hany : maxPages.any (· ≤ k) <;> simp [hlt, hany]

theorem step (h : w.Reached records latency limit filters before k)
    (hids : ((passing records filters).map Record.id).Nodup) (hmore : w.state.hasMore = true) :
    w.step.Reached records latency limit filters before (k + 1) := by
  obtain ⟨-, hstanding, hlist, hcalls⟩ := h.toStanding.step hmore
  rw [h.hasMore_eq, decide_eq_true_iff] at hmore
  have hlength : w.state.list.length = k * limit := by
    rw [h.list_eq, List.length_take]
    exact Nat.min_eq_left (Nat.le_of_lt hmore)
  have hjoin : w.state.list ++ ((passing records filters).drop (k * limit)).take limit =
      (passing records filters).take ((k + 1) * limit) := by
    rw [h.list_eq, Nat.succ_mul, List.take_add]
  rw [hlength] at hlist hcalls
  refine ⟨hstanding, congrArg (· + 1) h.pages_eq, ?_, ?_⟩
  · rw [hlist, putAll_of_nodup, hjoin]
    rw [hjoin]
    exact hids.sublist ((List.take_sublist _ _).map Record.id)
  · rw [hcalls, h.calls_eq, List.range_succ, List.map_append, List.append_assoc]
    rfl

/-- From the first pages on, the walk goes through the other ones and ends with the last. -/
theorem pagesFrom (h : w.Reached records latency limit filters before k) (hk : 1 ≤ k)
    (hids : ((passing records filters).map Record.id).Nodup) (default : Walk) {fuel p : Nat}
    (hp : pageCount (passing records filters).length limit maxPages = p) (hle : k ≤ p)
    (hfuel : p ≤ k + fuel) :
    (Walk.pagesFrom maxPages fuel w).length = p + 1 - k ∧
      ((Walk.pagesFrom maxPages fuel w).getLastD default).Reached records latency limit filters
        before p := by
  induction fuel generalizing w k default with
  | zero =>
    obtain rfl : k = p := Nat.le_antisymm hle hfuel
    exact ⟨(Nat.add_sub_cancel_left k 1).symm, h⟩
  | succ fuel ih =>
    have hgoes := h.goesOn_eq hk maxPages
    rw [hp] at hgoes
    by_cases hlt : k < p
    · have hmore : w.state.hasMore = true := by
        have hboth := (lt_pageCount_iff _ h.limit_pos hk maxPages).1 (hp ▸ hlt)
        rw [h.hasMore_eq]
        exact decide_eq_true hboth.1
      obtain ⟨hlength, hlast⟩ :=
        ih (h.step hids hmore) (Nat.le_add_left 1 k) w hlt (by omega)
      rw [Walk.pagesFrom, hgoes, decide_eq_true hlt, if_pos rfl, List.length_cons,
        List.getLastD_cons]
      exact ⟨by omega, hlast⟩
    · obtain rfl : k = p := by omega
      rw [Walk.pagesFrom, hgoes, decide_eq_false hlt]
      exact ⟨(Nat.add_sub_cancel_left k 1).symm, h⟩

end Reached

theorem reached_start (records : List Record) (latency : Nat) (settings : ListSettings)
    (filters : FilterSet) (hids : ((passing records filters).map Record.id).Nodup) :
    let limit := max settings.limit 1
    (start (.ofRecords records latency) settings filters).Reached records latency limit filters
      (if settings.initImmediately then [⟨0, limit, ∅⟩] else []) 1 := by
  intro limit
  obtain ⟨-, hstanding, hlist, hcalls⟩ := standing_start records latency settings filters
  refine ⟨hstanding, rfl, ?_, ?_⟩
  · rw [hlist, putAll_of_nodup, List.nil_append, Nat.one_mul]
    exact hids.sublist ((List.take_sublist _ _).map Record.id)
  · rw [hcalls, List.range_one, List.map_singleton, Nat.zero_mul]

theorem nodup_ids_passing (hids : (records.map Record.id).Nodup) (filters : FilterSet) :
    ((passing records filters).map Record.id).Nodup :=
  hids.sublist (List.filter_sublist.map Record.id)

/-- A walk through records without a repeated identifier has as many pages as they fill, as far as
it may go. Every page begins where those before it end, and in the end the list holds the records of
that many pages, in their order and unchanged, and says whether there are more. -/
theorem walk_loads_records_in_order (records : List Record) (latency : Nat)
    (settings : ListSettings) (filters : FilterSet) (maxPages : Option Nat) (fuel : Nat)
    (hids : (records.map Record.id).Nodup) (hlimit : 1 ≤ settings.limit)
    (hfuel : pageCount (passing records filters).length settings.limit maxPages ≤ fuel + 1) :
    let n := (passing records filters).length
    let p := pageCount n settings.limit maxPages
    let loader := Loader.ofRecords records latency
    let first := start loader settings filters
    let walks := pagesFrom maxPages fuel first
    let last := walks.getLastD first
    Settles (Session.start (Store.new loader settings)) (·.init (some filters)) ∧
      (∀ w ∈ walks, w.goesOn maxPages = true → Settles w.session (·.paginate)) ∧
      walks.length = p ∧ last.pages = p ∧ last.goesOn maxPages = false ∧
      last.state.list = (passing records filters).take (min n (p * settings.limit)) ∧
      last.state.total = some n ∧ last.state.lastError = none ∧
      last.state.hasMore = decide (p * settings.limit < n) ∧
      last.store.calls =
        (if settings.initImmediately then [⟨0, settings.limit, ∅⟩] else []) ++
          (List.range p).map fun k => ⟨k * settings.limit, settings.limit, filters⟩ := by
  intro n p loader first walks last
  have hmax : max settings.limit 1 = settings.limit := Nat.max_eq_left hlimit
  have hpassing := nodup_ids_passing hids filters
  have hreached := reached_start records latency settings filters hpassing
  obtain ⟨hsettles, hstanding, -⟩ := standing_start records latency settings filters
  rw [hmax] at hreached hstanding
  have hp : 1 ≤ p := by cases maxPages <;> simp [p, pageCount]
  have hfuel : p ≤ 1 + fuel := Nat.add_comm fuel 1 ▸ hfuel
  obtain ⟨hlength, hlast⟩ := hreached.pagesFrom (Nat.le_refl 1) hpassing first rfl hp hfuel
  refine ⟨hsettles, fun w hw hgoes => (hstanding.of_mem_pagesFrom hw).settles hgoes, hlength,
    hlast.pages_eq, ?_, ?_, hlast.total_eq, hlast.noError, hlast.hasMore_eq, hlast.calls_eq⟩
  · rw [hlast.goesOn_eq hp maxPages]
    exact decide_eq_false (Nat.lt_irrefl p)
  · rw [hlast.list_eq]
    exact (List.take_eq_take_min).trans (by rw [Nat.min_comm])

/-- A first page for nothing, and then the two pages of the records whose kind fits. -/
theorem walk_loads_two_pages :
    let record (id : EntityId) (kind : String) : Record := (Record.new id).set "kind" (.string kind)
    let records := [record (.int 1) "RTS", record (.str "1") "FPS", record (.int 3) "2D RTS",
      record (.int 2) "rts"]
    let settings : ListSettings := ⟨2, 300, true⟩
    let filters : FilterSet := FilterSet.set ∅ "kind" (.string "rts")
    let first := start (.ofRecords records 20) settings filters
    let walks := pagesFrom none 4 first
    let last := walks.getLastD first
    (records.map Record.id).Nodup ∧ 1 ≤ settings.limit ∧
      pageCount (passing records filters).length settings.limit none = 2 ∧ 2 ≤ 4 + 1 ∧
      walks.length = 2 ∧ last.state.list.map Record.id = [.int 1, .int 3, .int 2] ∧
      last.state.hasMore = false ∧ last.store.calls.map PageParams.skip = [0, 0, 2] := by
  intro record records settings filters first walks last
  have hids : (records.map Record.id).Nodup := by decide
  have hpassing : (passing records filters).map Record.id = [.int 1, .int 3, .int 2] := by cbv
  have hn : (passing records filters).length = 3 := by
    rw [← List.length_map Record.id, hpassing]
    rfl
  have hp : pageCount (passing records filters).length settings.limit none = 2 := by
    rw [hn]
    decide
  obtain ⟨-, -, hlength, -, -, hlist, -, -, hmore, hcalls⟩ :=
    walk_loads_records_in_order records 20 settings filters none 4 hids (by decide)
      (by rw [hp]; decide)
  refine ⟨hids, by decide, hp, by decide, hlength.trans hp, ?_, ?_, ?_⟩
  · rw [hlist, hp, hn, List.map_take, hpassing]
    rfl
  · rw [hmore, hp, hn]
    rfl
  · rw [hcalls, hp]
    rfl

end Walk
end PagedList

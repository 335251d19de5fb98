import Mathlib.Data.List.Perm.Subperm
import PagedList.Fixture
import PagedList.Proofs.PageWalk

/-! When a walk comes to its end. A page of records that are all in the list already leaves the list
as it is, and the walk asks for the same page again. So the end depends on the identifiers. -/
namespace PagedList

open LinearSearch

namespace Walk

/-- Whether the walk comes to its last page after at most `fuel` further pages. -/
def endsWithin (maxPages : Option Nat) (fuel : Nat) (w : Walk) : Bool :=
  !((pagesFrom maxPages fuel w).getLastD w).goesOn maxPages

variable {records : List Record} {latency limit : Nat} {filters : FilterSet} {w : Walk}

/-- A walk that has put some of the records that pass into its list, each under its identifier. -/
structure Gathering (w : Walk) (records : List Record) (latency limit : Nat) (filters : FilterSet) :
    Prop extends w.Standing records latency limit filters where
  nodup : (w.state.list.map Record.id).Nodup
  subset : w.state.list.map Record.id ⊆ (passing records filters).map Record.id

/-- A page of the records brings in no other identifiers than theirs, and none of them twice. -/
theorem gathers_putAll (skip limit : Nat) {l : List Record} (hn : (l.map Record.id).Nodup)
    (hs : l.map Record.id ⊆ (passing records filters).map Record.id) :
    let l' := putAll (((passing records filters).drop skip).take limit) l
    (l'.map Record.id).Nodup ∧ l'.map Record.id ⊆ (passing records filters).map Record.id := by
  refine ⟨nodup_ids_putAll hn _, fun id hid => ?_⟩
  rcases mem_ids_putAll.1 hid with hid | hid
  · exact hs hid
  · have hpart : (((passing records filters).drop skip).take limit).Sublist
        (passing records filters) :=
      (List.take_sublist _ _).trans (List.drop_sublist _ _)
    exact (hpart.map Record.id).subset hid

namespace Gathering

theorem step (h : w.Gathering records latency limit filters) (hmore : w.state.hasMore = true) :
    w.step.Gathering records latency limit filters := by
  obtain ⟨-, hstanding, hlist, -⟩ := h.toStanding.step hmore
  obtain ⟨hn, hs⟩ := gathers_putAll w.state.list.length limit h.nodup h.subset
  exact ⟨hstanding, hlist ▸ hn, hlist ▸ hs⟩

/-- A list never reaches the number of the records if two of them share an identifier. -/
theorem goesOn_of_repeated (h : w.Gathering records latency limit filters)
    (hids : ¬((passing records filters).map Record.id).Nodup) : w.goesOn none = true := by
  have hsub : (w.state.list.map Record.id).Subperm ((passing records filters).map Record.id) :=
    List.subperm_of_subset h.nodup h.subset
  have hlt : w.state.list.length < (passing records filters).length := by
    refine Nat.lt_of_not_le fun hle => hids ?_
    have hperm := hsub.perm_of_length_le (by simpa using hle)
    exact hperm.nodup h.nodup
  simp [goesOn, h.hasMore_eq, hlt, h.noError]

theorem goesOn_getLastD (h : w.Gathering records latency limit filters)
    (hids : ¬((passing records filters).map Record.id).Nodup) (fuel : Nat) (default : Walk) :
    ((pagesFrom none fuel w).getLastD default).goesOn none = true := by
  have hgoes := h.goesOn_of_repeated hids
  induction fuel generalizing w default with
  | zero => exact hgoes
  | succ fuel ih =>
    have hnext := h.step (hasMore_of_goesOn hgoes)
    rw [pagesFrom, if_pos hgoes, List.getLastD_cons]
    exact ih hnext w (hnext.goesOn_of_repeated hids)

end Gathering

theorem gathering_start (records : List Record) (latency : Nat) (settings : ListSettings)
    (filters : FilterSet) :
    (start (.ofRecords records latency) settings filters).Gathering records latency
      (max settings.limit 1) filters := by
  obtain ⟨-, hstanding, hlist, -⟩ := standing_start records latency settings filters
  have hnodup : (([] : List Record).map Record.id).Nodup := List.nodup_nil
  have hsubset : ([] : List Record).map Record.id ⊆ (passing records filters).map Record.id :=
    List.nil_subset _
  obtain ⟨hn, hs⟩ := gathers_putAll 0 (max settings.limit 1) hnodup hsubset
  exact ⟨hstanding, hlist ▸ hn, hlist ▸ hs⟩

theorem endsWithin_of_nodup_ids (records : List Record) (latency : Nat) (settings : ListSettings)
    (filters : FilterSet) (hids : ((passing records filters).map Record.id).Nodup) {fuel : Nat}
    (hfuel : max 1 (passing records filters).length ≤ fuel + 1) :
    let first := start (.ofRecords records latency) settings filters
    first.endsWithin none fuel = true ∧
      (pagesFrom none fuel first).length ≤ max 1 (passing records filters).length := by
  intro first
  have hreached := reached_start records latency settings filters hids
  let p := pageCount (passing records filters).length (max settings.limit 1) none
  have hone : 1 ≤ p := Nat.le_max_left 1 _
  have hp : p ≤ max 1 (passing records filters).length :=
    max_le_max_left 1 ((ceilDiv_le_iff_le_mul hreached.limit_pos).2
      (Nat.le_mul_of_pos_left _ hreached.limit_pos))
  have hle : p ≤ 1 + fuel := by omega
  obtain ⟨hlength, hlast⟩ := hreached.pagesFrom (Nat.le_refl 1) hids first rfl hone hle
  have hends := hlast.goesOn_eq hone none
  rw [Nat.add_sub_cancel] at hlength
  refine ⟨?_, hlength ▸ hp⟩
  rw [endsWithin, hends, decide_eq_false (Nat.lt_irrefl p)]
  rfl

/-- Without a bound on the pages, a walk ends exactly if no two of the records that pass share an
identifier, and then with at most as many pages as records, or one if there are none. The waiting
for each page ends in any case. -/
theorem ends_iff_nodup_ids (records : List Record) (latency : Nat) (settings : ListSettings)
    (filters : FilterSet) :
    let loader := Loader.ofRecords records latency
    let first := start loader settings filters
    let n := (passing records filters).length
    let distinct := ((passing records filters).map Record.id).Nodup
    Settles (Session.start (Store.new loader settings)) (·.init (some filters)) ∧
      (∀ fuel, ∀ w ∈ pagesFrom none fuel first,
        w.goesOn none = true → Settles w.session (·.paginate)) ∧
      ((∃ fuel, first.endsWithin none fuel = true) ↔ distinct) ∧
      (distinct → ∀ fuel, max 1 n ≤ fuel + 1 →
        first.endsWithin none fuel = true ∧ (pagesFrom none fuel first).length ≤ max 1 n) := by
  intro loader first n distinct
  obtain ⟨hsettles, hstanding, -⟩ := standing_start records latency settings filters
  have hbound : distinct → ∀ fuel, max 1 n ≤ fuel + 1 →
      first.endsWithin none fuel = true ∧ (pagesFrom none fuel first).length ≤ max 1 n :=
    fun hids _ hfuel => endsWithin_of_nodup_ids records latency settings filters hids hfuel
  refine ⟨hsettles, fun _ w hw hgoes => (hstanding.of_mem_pagesFrom hw).settles hgoes, ?_, hbound⟩
  constructor
  · rintro ⟨fuel, hends⟩
    by_contra hids
    have hgoes := (gathering_start records latency settings filters).goesOn_getLastD hids fuel first
    rw [endsWithin, hgoes] at hends
    cases hends
  · exact fun hids => ⟨max 1 n, (hbound hids _ (Nat.le_succ _)).1⟩

/-- Two records share an identifier, so the list stays at one of two. -/
theorem repeated_id_goes_on :
    let record : Record := Record.new (.int 1)
    let settings : ListSettings := ⟨10, 300, false⟩
    let first := start (.ofRecords [record, record] 0) settings ∅
    Fixture.parse "[\x7b\"id\": 1\x7d, \x7b\"id\": 1\x7d]" = .ok [record, record] ∧
      1 ≤ settings.limit ∧ (passing [record, record] ∅).length = 2 ∧
      ∀ fuel, first.endsWithin none fuel = false := by
  intro record settings first
  refine ⟨by cbv, by decide, by decide, fun fuel => ?_⟩
  have hstart := gathering_start [record, record] 0 settings ∅
  rw [endsWithin, hstart.goesOn_getLastD (by decide) fuel first]
  rfl

end Walk
end PagedList

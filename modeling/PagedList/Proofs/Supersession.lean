import Mathlib
import PagedList.Proofs.Outstanding

/-! Two courses of one store. What the answers to superseded loads say, when they come and whether
they come at all makes no difference to anything that can be seen from outside. -/
namespace PagedList

namespace Store

variable {ε F : Type} [Entity ε] [EmptyCollection F]

/-- What a message does that comes to a store: the end closes it, all else is dispatched. -/
def process (s : Store ε F) : Message ε F → Store ε F
  | .tornDown => s.tearDown
  | m => s.dispatch m

def asks (s : Store ε F) (m : Message ε F) : List Tag :=
  if s.isTornDown then [] else (s.state.update m).2.loads []

def shows (s : Store ε F) (m : Message ε F) : List (Snapshot ε) :=
  if (s.process m).version = s.version then [] else [(s.process m).published]

theorem process_of_tornDown {s : Store ε F} (h : s.tornDown = true) (m : Message ε F) :
    s.process m = s := by
  cases m <;> simp [process, dispatch, tearDown, isTornDown, h]

theorem process_of_open {s : Store ε F} (h : s.isTornDown = false) (m : Message ε F) :
    (s.process m).state = (s.state.update m).1 ∧
      (s.process m).cancelled = (s.process m).tornDown := by
  have hflags : s.tornDown = false ∧ s.cancelled = false := Bool.or_eq_false_iff.1 h
  have hdispatch : (s.dispatch m).state = (s.state.update m).1 ∧
      (s.dispatch m).cancelled = (s.dispatch m).tornDown := by
    rw [dispatch_eq_apply h]
    exact ⟨apply_state s m, by simp [hflags]⟩
  cases m with
  | tornDown =>
    simp only [process, tearDown, hflags.1, Bool.false_eq_true, if_false]
    exact ⟨apply_state _ _, by rw [apply_tornDown]⟩
  | _ => exact hdispatch

end Store

/-- What comes to a store: a message, or the answer to one of the loads that it asked for. -/
inductive Arrival (ε F : Type) where
  | message (m : Message ε F)
  /-- The load is given by its number among all that were asked for. -/
  | answer (load : Nat) (result : Except LoadError (Page ε))

/-- A store with all that it has asked for and put out so far, in order. -/
structure Course (ε F : Type) [Entity ε] where
  store : Store ε F
  asked : List Tag
  shown : List (Snapshot ε)

namespace Course

variable {ε F : Type} [Entity ε] [EmptyCollection F]

/-- A new store may have asked for its first page already. -/
def new (loader : Loader ε F) (settings : ListSettings) : Course ε F :=
  let store := Store.new loader settings
  { store := store
    asked := if settings.initImmediately then [⟨store.state.generation, .initial⟩] else []
    shown := if settings.initImmediately then [store.published] else [] }

/-- The message in which something arrives; the answer to a load that was never asked for is none. -/
def message? (c : Course ε F) : Arrival ε F → Option (Message ε F)
  | .message m => some m
  | .answer load result =>
    (c.asked[load]?).map fun tag => .pageLoaded tag.generation tag.kind result

def receive (c : Course ε F) (m : Message ε F) : Course ε F where
  store := c.store.process m
  asked := c.asked ++ c.store.asks m
  shown := c.shown ++ c.store.shows m

def step (c : Course ε F) (x : Arrival ε F) : Course ε F :=
  match c.message? x with
  | some m => c.receive m
  | none => c

def run (c : Course ε F) (xs : List (Arrival ε F)) : Course ε F := xs.foldl step c

@[simp] theorem run_append (c : Course ε F) (xs ys : List (Arrival ε F)) :
    c.run (xs ++ ys) = (c.run xs).run ys := List.foldl_append

@[simp] theorem run_cons (c : Course ε F) (x : Arrival ε F) (xs : List (Arrival ε F)) :
    c.run (x :: xs) = (c.step x).run xs := rfl

@[simp] theorem run_nil (c : Course ε F) : c.run [] = c := rfl

def generation (c : Course ε F) : Generation := c.store.state.generation

def isReset (c : Course ε F) (x : Arrival ε F) : Bool :=
  !c.store.isTornDown && (c.message? x).any c.store.state.isReset

def resets (c : Course ε F) : List (Arrival ε F) → Nat
  | [] => 0
  | x :: xs => (if c.isReset x then 1 else 0) + (c.step x).resets xs

theorem resets_append (c : Course ε F) (xs ys : List (Arrival ε F)) :
    c.resets (xs ++ ys) = c.resets xs + (c.run xs).resets ys := by
  induction xs generalizing c with
  | nil => simp [resets]
  | cons x xs ih => simp [resets, ih, Nat.add_assoc]

/-- After these arrivals a load is superseded: the list has been reset since it was asked for. -/
def Superseded (c : Course ε F) (before : List (Arrival ε F)) (load : Nat) : Prop :=
  ∃ earlier reset later, before = earlier ++ reset :: later ∧
    load < (c.run earlier).asked.length ∧ (c.run earlier).isReset reset = true

/-- One change to what arrives, in the answer to a superseded load or in the end of a waiting time
that no filters wait for. -/
inductive Varies (c : Course ε F) : List (Arrival ε F) → List (Arrival ε F) → Prop
  | change {before after load result} (h : c.Superseded before load)
      (result' : Except LoadError (Page ε)) :
    Varies c (before ++ .answer load result :: after) (before ++ .answer load result' :: after)
  | delay {before between after load result} (h : c.Superseded before load) :
    Varies c (before ++ .answer load result :: (between ++ after))
      (before ++ between ++ .answer load result :: after)
  | drop {before after load result} (h : c.Superseded before load) :
    Varies c (before ++ .answer load result :: after) (before ++ after)
  | lapse {before after ticket}
      (h : ∀ filters, (c.run before).store.state.pending ≠ some (ticket, filters)) :
    Varies c (before ++ .message (.debounceElapsed ticket) :: after) (before ++ after)

/-- A store that is told to stop is closed, and no load is of a generation that is still to come. -/
structure Dated (c : Course ε F) : Prop where
  closed : c.store.cancelled = c.store.tornDown
  old : ∀ tag ∈ c.asked, tag.generation.number.toNat ≤ c.generation.number.toNat

def Outdated (c : Course ε F) (load : Nat) : Prop :=
  ∃ tag, c.asked[load]? = some tag ∧ tag.generation.number.toNat < c.generation.number.toNat

/-- Whether something makes no difference when it arrives. -/
def Quiet (c : Course ε F) (x : Arrival ε F) : Prop := c.step x = c ∧ c.isReset x = false

theorem dated_new (loader : Loader ε F) (settings : ListSettings) :
    (new loader settings : Course ε F).Dated := by
  cases hi : settings.initImmediately with
  | false =>
    refine ⟨by simp only [new, Store.new, hi]; rfl, ?_⟩
    simp [new, hi]
  | true =>
    refine ⟨by simp only [new, Store.new, hi]; rfl, ?_⟩
    simp [new, hi, generation]

theorem receive_of_tornDown {c : Course ε F} (hc : c.store.cancelled = c.store.tornDown)
    (ht : c.store.isTornDown = true) (m : Message ε F) : c.receive m = c := by
  have htorn : c.store.tornDown = true := by simpa [Store.isTornDown, hc] using ht
  simp [receive, Store.asks, Store.shows, Store.process_of_tornDown htorn, ht]

theorem step_of_message? {c : Course ε F} {x : Arrival ε F} {m : Message ε F}
    (h : c.message? x = some m) : c.step x = c.receive m := by
  simp [step, h]

/-- What can arrive: nothing that the store takes notice of, or a message that changes its state. -/
theorem step_eq_or (c : Course ε F) (hc : c.store.cancelled = c.store.tornDown) (x : Arrival ε F) :
    (c.step x = c ∧ c.isReset x = false) ∨
      ∃ m, c.message? x = some m ∧ c.store.isTornDown = false ∧ c.step x = c.receive m ∧
        c.isReset x = c.store.state.isReset m := by
  cases hm : c.message? x with
  | none => exact .inl ⟨by simp [step, hm], by simp [isReset, hm]⟩
  | some m =>
    have hstep := step_of_message? hm
    cases ht : c.store.isTornDown with
    | true => exact .inl ⟨hstep.trans (receive_of_tornDown hc ht m), by simp [isReset, ht]⟩
    | false => exact .inr ⟨m, rfl, rfl, hstep, by simp [isReset, ht, hm]⟩

theorem getElem?_asked_run {c : Course ε F} {load : Nat} {tag : Tag}
    (h : c.asked[load]? = some tag) (xs : List (Arrival ε F)) :
    (c.run xs).asked[load]? = some tag := by
  induction xs generalizing c with
  | nil => exact h
  | cons x xs ih =>
    refine ih ?_
    unfold step
    split
    · have hlength := (List.getElem?_eq_some_iff.1 h).1
      exact (List.getElem?_append_left hlength).trans h
    · exact h

theorem quiet_of_ignores {c : Course ε F} (hc : c.store.cancelled = c.store.tornDown)
    {x : Arrival ε F} (h : ∀ m, c.message? x = some m → c.store.state.ignores m = true) :
    c.Quiet x := by
  rcases c.step_eq_or hc x with hquiet | ⟨m, hm, ht, hstep, hreset⟩
  · exact hquiet
  · have hignored := h m hm
    have hprocess : c.store.process m = c.store := by
      have happly := Store.apply_eq_of_ignores hignored
      rw [← Store.dispatch_eq_apply ht] at happly
      cases m with
      | tornDown => cases hignored
      | _ => exact happly
    have hasks : c.store.asks m = [] := by
      simp [Store.asks, ht, ListState.update_eq_of_ignores hignored, Command.loads]
    refine ⟨?_, hreset.trans (ListState.isReset_of_ignores hignored)⟩
    rw [hstep]
    simp [receive, hprocess, hasks, Store.shows]

namespace Dated

variable {c : Course ε F}

theorem toNat_generation_step (hc : c.Dated) (x : Arrival ε F)
    (hn : c.generation.number.toNat + (if c.isReset x then 1 else 0) < UInt64.size) :
    (c.step x).generation.number.toNat =
      c.generation.number.toNat + if c.isReset x then 1 else 0 := by
  rcases c.step_eq_or hc.closed x with ⟨hstep, hreset⟩ | ⟨m, -, ht, hstep, hreset⟩
  · simp [hstep, hreset]
  · have hg : (c.receive m).generation =
        if c.store.state.isReset m then c.generation.next else c.generation := by
      simp only [Course.receive, Course.generation, (Store.process_of_open ht m).1]
      exact (c.store.state.step_update m).generation_eq
    rw [hstep, hg, ← hreset]
    split
    · rename_i h
      rw [if_pos h] at hn
      exact Generation.toNat_next hn
    · rfl

theorem step (hc : c.Dated) (x : Arrival ε F)
    (hn : c.generation.number.toNat + (if c.isReset x then 1 else 0) < UInt64.size) :
    (c.step x).Dated := by
  have hg := hc.toNat_generation_step x hn
  rcases c.step_eq_or hc.closed x with ⟨hstep, -⟩ | ⟨m, -, ht, hstep, -⟩
  · rw [hstep]
    exact hc
  · rw [hstep] at hg ⊢
    refine ⟨(Store.process_of_open ht m).2, fun tag htag => ?_⟩
    rcases List.mem_append.1 htag with htag | htag
    · have hold := hc.old tag htag
      omega
    · -- what is asked for now is of the generation that there is now
      have hnew : tag ∈ (c.store.state.update m).2.loads [] := by
        simpa [Store.asks, ht] using htag
      have hnone : ∀ r ∈ ([] : List Tag), r.generation = c.generation := by simp
      have hcurrent := (c.store.state.step_update m).current_loads hnone tag hnew
      rw [hcurrent, ← (Store.process_of_open ht m).1]
      exact Nat.le_refl _

theorem run (hc : c.Dated) (xs : List (Arrival ε F))
    (hn : c.generation.number.toNat + c.resets xs < UInt64.size) :
    (c.run xs).Dated ∧
      (c.run xs).generation.number.toNat = c.generation.number.toNat + c.resets xs := by
  induction xs generalizing c with
  | nil => exact ⟨hc, rfl⟩
  | cons x xs ih =>
    rw [resets] at hn ⊢
    have hg := hc.toNat_generation_step x (by omega)
    obtain ⟨hdated, hgeneration⟩ := ih (hc.step x (by omega)) (by omega)
    exact ⟨hdated, hgeneration.trans (by omega)⟩

end Dated

namespace Outdated

variable {c : Course ε F} {load : Nat}

theorem run (h : c.Outdated load) (hc : c.Dated) (xs : List (Arrival ε F))
    (hn : c.generation.number.toNat + c.resets xs < UInt64.size) : (c.run xs).Outdated load := by
  obtain ⟨tag, htag, hlt⟩ := h
  have hg := (hc.run xs hn).2
  exact ⟨tag, getElem?_asked_run htag xs, by omega⟩

theorem of_reset (hc : c.Dated) (hload : load < c.asked.length) {x : Arrival ε F}
    (hx : c.isReset x = true) (hn : c.generation.number.toNat + 1 < UInt64.size) :
    (c.step x).Outdated load := by
  have hg := hc.toNat_generation_step x (by rwa [if_pos hx])
  have hold := hc.old _ (List.getElem_mem hload)
  rw [if_pos hx] at hg
  exact ⟨c.asked[load], getElem?_asked_run (List.getElem?_eq_getElem hload) [x], by omega⟩

theorem quiet (h : c.Outdated load) (hc : c.Dated) (result : Except LoadError (Page ε)) :
    c.Quiet (.answer load result) := by
  obtain ⟨tag, htag, hlt⟩ := h
  have hne : tag.generation ≠ c.store.state.generation := fun he => by
    rw [he] at hlt
    exact Nat.lt_irrefl _ hlt
  refine quiet_of_ignores hc.closed fun m hm => ?_
  obtain rfl : .pageLoaded tag.generation tag.kind result = m := by simpa [message?, htag] using hm
  simp [ListState.ignores, ListState.awaits, hne]

end Outdated

/-- The answer to a superseded load makes no difference. -/
theorem Superseded.quiet {c : Course ε F} {before : List (Arrival ε F)} {load : Nat}
    (h : c.Superseded before load) (hc : c.Dated)
    (hn : c.generation.number.toNat + c.resets before < UInt64.size)
    (result : Except LoadError (Page ε)) : (c.run before).Quiet (.answer load result) := by
  obtain ⟨earlier, reset, later, rfl, hload, hreset⟩ := h
  have hdated := (hc.run _ hn).1
  rw [resets_append, resets, if_pos hreset] at hn
  obtain ⟨hearlier, hg⟩ := hc.run earlier (by omega)
  have houtdated := Outdated.of_reset hearlier hload hreset (by omega)
  have hg' := hearlier.toNat_generation_step reset (by rw [if_pos hreset]; omega)
  rw [if_pos hreset] at hg'
  have hnext := hearlier.step reset (by rw [if_pos hreset]; omega)
  have hlater := houtdated.run hnext later (by omega)
  rw [run_append, run_cons] at hdated ⊢
  exact hlater.quiet hdated result

theorem Superseded.append {c : Course ε F} {before : List (Arrival ε F)} {load : Nat}
    (h : c.Superseded before load) (between : List (Arrival ε F)) :
    c.Superseded (before ++ between) load := by
  obtain ⟨earlier, reset, later, rfl, hload, hreset⟩ := h
  exact ⟨earlier, reset, later ++ between, by simp, hload, hreset⟩

theorem quiet_debounceElapsed {c : Course ε F} (hc : c.Dated) {ticket : Nat}
    (h : ∀ filters, c.store.state.pending ≠ some (ticket, filters)) :
    c.Quiet (.message (.debounceElapsed ticket)) := by
  refine quiet_of_ignores hc.closed fun m hm => ?_
  obtain rfl : .debounceElapsed ticket = m := by simpa [message?] using hm
  cases hp : c.store.state.pending with
  | none => simp [ListState.ignores, hp]
  | some p =>
    have hne : p.1 ≠ ticket := fun he => h p.2 (by rw [hp, ← he])
    simp [ListState.ignores, hp, hne]

/-- What makes no difference may as well not arrive. -/
theorem Quiet.run_eq {c : Course ε F} {before : List (Arrival ε F)} {x : Arrival ε F}
    (h : (c.run before).Quiet x) (after : List (Arrival ε F)) :
    c.run (before ++ x :: after) = c.run (before ++ after) ∧
      c.resets (before ++ x :: after) = c.resets (before ++ after) := by
  obtain ⟨hstep, hreset⟩ := h
  constructor
  · rw [run_append, run_cons, hstep, run_append]
  · rw [resets_append, resets, hstep, hreset, resets_append]
    simp

theorem Varies.run_eq {c : Course ε F} {xs ys : List (Arrival ε F)} (h : c.Varies xs ys)
    (hc : c.Dated) (hn : c.generation.number.toNat + c.resets xs < UInt64.size) :
    c.run ys = c.run xs ∧ c.resets ys = c.resets xs := by
  have hbefore : ∀ {before x after}, c.generation.number.toNat + c.resets (before ++ x :: after) <
      UInt64.size → c.generation.number.toNat + c.resets before < UInt64.size := fun hn => by
    rw [resets_append] at hn
    omega
  cases h with
  | @change before after load result h result' =>
    have hold := (h.quiet hc (hbefore hn) result).run_eq after
    have hnew := (h.quiet hc (hbefore hn) result').run_eq after
    exact ⟨hnew.1.trans hold.1.symm, hnew.2.trans hold.2.symm⟩
  | @delay before between after load result h =>
    have hold := (h.quiet hc (hbefore hn) result).run_eq (between ++ after)
    rw [← List.append_assoc] at hold
    have hn' : c.generation.number.toNat + c.resets (before ++ between) < UInt64.size := by
      rw [hold.2, resets_append] at hn
      omega
    have hnew := ((h.append between).quiet hc hn' result).run_eq after
    exact ⟨hnew.1.trans hold.1.symm, hnew.2.trans hold.2.symm⟩
  | @drop before after load result h =>
    have hold := (h.quiet hc (hbefore hn) result).run_eq after
    exact ⟨hold.1.symm, hold.2.symm⟩
  | @lapse before after ticket h =>
    have hdated := (hc.run before (hbefore hn)).1
    have hold := (quiet_debounceElapsed hdated h).run_eq after
    exact ⟨hold.1.symm, hold.2.symm⟩

theorem run_eq_of_varies {c : Course ε F} {xs ys : List (Arrival ε F)}
    (h : Relation.ReflTransGen c.Varies xs ys) (hc : c.Dated)
    (hn : c.generation.number.toNat + c.resets xs < UInt64.size) :
    c.run ys = c.run xs ∧ c.resets ys = c.resets xs := by
  induction h with
  | refl => exact ⟨rfl, rfl⟩
  | tail _ hstep ih =>
    have hlast := hstep.run_eq hc (by rwa [ih.2])
    exact ⟨hlast.1.trans ih.1, hlast.2.trans ih.2⟩

/-- However the answers to superseded loads change, come later or stay away, and whichever ends of
waiting times stay away that no filters wait for, a store asks its loader for the same, puts out
the same snapshots and comes to the same state. -/
theorem superseded_answers_do_not_interfere (loader : Loader ε F) (settings : ListSettings)
    {xs ys : List (Arrival ε F)} :
    let start : Course ε F := new loader settings
    (if settings.initImmediately then 1 else 0) + start.resets xs < UInt64.size →
    Relation.ReflTransGen start.Varies xs ys →
    (start.run ys).store.calls = (start.run xs).store.calls ∧
      (start.run ys).shown = (start.run xs).shown ∧
      (start.run ys).store.state = (start.run xs).store.state := by
  intro start hn h
  have hg : start.generation.number.toNat = if settings.initImmediately then 1 else 0 :=
    Store.generation_new loader settings
  have heq := (run_eq_of_varies h (dated_new loader settings) (by rwa [hg])).1
  rw [heq]
  exact ⟨rfl, rfl, rfl⟩

/-- The first page is answered late, or only after the end and with a failure, and a waiting time
that was never begun ends, or does not. -/
theorem late_answer_does_not_interfere :
    let rts := FilterSet.empty.insert "category" (.string "RTS")
    let settings : ListSettings := ⟨2, 300, true⟩
    let start : Course Game FilterSet := new .scripted settings
    let changed : Arrival Game FilterSet := .message (.filtersChanged rts)
    let late : Arrival Game FilterSet := .answer 0 (.ok ⟨[⟨7, "Doom"⟩], 9⟩)
    let failed : Arrival Game FilterSet := .answer 0 (.error .cancelled)
    let debounced : Arrival Game FilterSet := .message (.filtersDebounced ∅)
    let lapsed : Arrival Game FilterSet := .message (.debounceElapsed 7)
    let answered : Arrival Game FilterSet := .answer 1 (.ok ⟨[⟨1, "StarCraft"⟩], 1⟩)
    let closed : Arrival Game FilterSet := .message .tornDown
    let xs := [changed, late, debounced, lapsed, answered, closed]
    let ys := [changed, debounced, answered, closed, failed]
    1 + start.resets xs < UInt64.size ∧ Relation.ReflTransGen start.Varies xs ys ∧
      (start.run ys).store.calls = (start.run xs).store.calls ∧
      (start.run ys).shown = (start.run xs).shown ∧
      (start.run ys).store.state = (start.run xs).store.state ∧
      (start.run xs).shown.length = 4 := by
  intro rts settings start changed late failed debounced lapsed answered closed xs ys
  have hn : 1 + start.resets xs < UInt64.size := by decide
  have hsuperseded : ∀ later, start.Superseded (changed :: later) 0 := fun later =>
    ⟨[], changed, later, rfl, by decide, rfl⟩
  have hlate : start.Varies ([changed] ++ late :: ([debounced, lapsed, answered, closed] ++ []))
      ([changed] ++ [debounced, lapsed, answered, closed] ++ late :: []) :=
    .delay (hsuperseded _)
  have hfailed : start.Varies ([changed, debounced, lapsed, answered, closed] ++ late :: [])
      ([changed, debounced, lapsed, answered, closed] ++ failed :: []) :=
    .change (hsuperseded _) _
  have hlapsed : start.Varies ([changed, debounced] ++ lapsed :: [answered, closed, failed])
      ([changed, debounced] ++ [answered, closed, failed]) :=
    .lapse fun filters h => nomatch h
  have h : Relation.ReflTransGen start.Varies xs ys :=
    ((Relation.ReflTransGen.single hlate).tail hfailed).tail hlapsed
  obtain ⟨hcalls, hshown, hstate⟩ := superseded_answers_do_not_interfere .scripted settings hn h
  exact ⟨hn, h, hcalls, hshown, hstate, by cbv⟩

end Course
end PagedList

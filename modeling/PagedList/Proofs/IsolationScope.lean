import PagedList.Isolation

/-! Where the flag of a thread is up. Every place in a poll is enclosed by the isolated polls that are
under way when it is come to, and the flag is up just if there are any. An isolated poll always comes
back, with the flag as it was, and a breakdown is caught by the nearest one. -/
namespace PagedList

namespace Poll

/-- The part of a poll from a place on. -/
def at? : Poll → List Step → Option Poll
  | p, [] => some p
  | .look rest, .looked flag :: place => (rest flag).at? place
  | .inside _ inner _, .into :: place => inner.at? place
  | .inside _ _ rest, .after answer :: place => (rest answer).at? place
  | _, _ :: _ => none

@[simp] theorem at?_nil (p : Poll) : p.at? [] = some p := by
  cases p <;> rfl

theorem at?_cons (p : Poll) (step : Step) (place : List Step) :
    p.at? (step :: place) = (p.at? [step]).bind (·.at? place) := by
  cases p <;> cases step <;> simp [at?]

/-- Whether a place lies in the isolated poll that is made at another one. -/
def Encloses (p : Poll) (outer place : List Step) : Prop :=
  ∃ inner rest tail, p.at? outer = some (.inside true inner rest) ∧ place = outer ++ .into :: tail

/-- Whether a place lies in the isolated poll that is made at another one, and in none inside that. -/
def ClosestEncloses (p : Poll) (outer place : List Step) : Prop :=
  p.Encloses outer place ∧ ∀ other, p.Encloses other place → other <+: outer

theorem not_encloses_nil (p : Poll) (outer : List Step) : ¬ p.Encloses outer [] := by
  simp [Encloses]

/-- A place behind a step is enclosed by an isolated poll that the step leads into, and by those that
enclose it from there on. -/
theorem encloses_cons {p : Poll} {step : Step} {outer place : List Step} :
    p.Encloses outer (step :: place) ↔
      (outer = [] ∧ step = .into ∧ ∃ inner rest, p = .inside true inner rest) ∨
        ∃ tail part, outer = step :: tail ∧ p.at? [step] = some part ∧ part.Encloses tail place := by
  constructor
  · rintro ⟨inner, rest, tail, hinside, hplace⟩
    cases outer with
    | nil =>
      rw [at?_nil] at hinside
      cases hinside
      cases hplace
      exact .inl ⟨rfl, rfl, inner, rest, rfl⟩
    | cons first outer =>
      rw [at?_cons, Option.bind_eq_some_iff] at hinside
      obtain ⟨part, hpart, hinside⟩ := hinside
      cases hplace
      exact .inr ⟨outer, part, rfl, hpart, inner, rest, tail, hinside, rfl⟩
  · rintro (⟨rfl, rfl, inner, rest, rfl⟩ | ⟨outer, part, rfl, hpart, inner, rest, tail, hinside, rfl⟩)
    · exact ⟨inner, rest, place, rfl, rfl⟩
    · refine ⟨inner, rest, tail, ?_, rfl⟩
      rw [at?_cons, hpart]
      exact hinside

theorem exists_encloses_cons {p : Poll} {step : Step} {place : List Step} :
    (∃ outer, p.Encloses outer (step :: place)) ↔
      (step = .into ∧ ∃ inner rest, p = .inside true inner rest) ∨
        ∃ part, p.at? [step] = some part ∧ ∃ outer, part.Encloses outer place := by
  simp only [encloses_cons]
  constructor
  · rintro ⟨outer, ⟨-, h⟩ | ⟨tail, part, -, hpart, h⟩⟩
    · exact .inl h
    · exact .inr ⟨part, hpart, tail, h⟩
  · rintro (h | ⟨part, hpart, tail, h⟩)
    · exact ⟨[], .inl ⟨rfl, h⟩⟩
    · exact ⟨step :: tail, .inr ⟨tail, part, rfl, hpart, h⟩⟩

theorem ClosestEncloses.cons {p part : Poll} {step : Step} {outer place : List Step}
    (h : part.ClosestEncloses outer place) (hpart : p.at? [step] = some part) :
    p.ClosestEncloses (step :: outer) (step :: place) := by
  refine ⟨encloses_cons.2 (.inr ⟨outer, part, rfl, hpart, h.1⟩), fun other hother => ?_⟩
  obtain ⟨rfl, -⟩ | ⟨tail, part', rfl, hpart', htail⟩ := encloses_cons.1 hother
  · exact List.nil_prefix
  · cases hpart.symm.trans hpart'
    exact List.cons_prefix_cons.2 ⟨rfl, h.2 tail htail⟩

theorem closestEncloses_nil {inner : Poll} {place : List Step}
    (h : ∀ outer, ¬ inner.Encloses outer place) (rest : PollAnswer → Poll) :
    (inside true inner rest).ClosestEncloses [] (.into :: place) := by
  refine ⟨encloses_cons.2 (.inl ⟨rfl, rfl, inner, rest, rfl⟩), fun other hother => ?_⟩
  obtain ⟨rfl, -⟩ | ⟨tail, part, rfl, hpart, htail⟩ := encloses_cons.1 hother
  · exact List.nil_prefix
  · cases (at?_nil inner).symm.trans hpart
    exact absurd htail (h tail)

theorem not_encloses_cons {p part : Poll} {step : Step} {place : List Step}
    (h : ∀ outer, ¬ part.Encloses outer place) (hpart : p.at? [step] = some part)
    (hstep : step = .into → ∀ inner rest, p ≠ .inside true inner rest) (outer : List Step) :
    ¬ p.Encloses outer (step :: place) := fun houter => by
  obtain ⟨-, hinto, inner, rest, hp⟩ | ⟨tail, part', -, hpart', htail⟩ := encloses_cons.1 houter
  · exact hstep hinto inner rest hp
  · cases hpart.symm.trans hpart'
    exact h tail htail

theorem flag_run (p : Poll) (flag : Bool) : (p.run flag).flag = flag := by
  induction p generalizing flag with
  | finish ending => rfl
  | look rest ih => exact ih flag flag
  | inside isolated inner rest ihInner ihRest =>
    have hback : (if isolated then isolate inner.run flag else inner.run flag).flag = flag := by
      cases isolated with
      | true => rfl
      | false => exact ihInner flag
    simp only [run]
    split
    · exact hback
    · exact (ihRest _ _).trans hback

theorem run_inside (isolated : Bool) (inner : Poll) (rest : PollAnswer → Poll) (flag : Bool) :
    (inside isolated inner rest).run flag =
      let i := inner.run (isolated || flag)
      let seen := ⟨[], flag⟩ :: i.seen.map (Sight.behind .into)
      match i.ending.answer? isolated with
      | none => ⟨seen, i.ending, flag⟩
      | some answer =>
        let r := (rest answer).run flag
        ⟨seen ++ r.seen.map (Sight.behind (.after answer)), r.ending, flag⟩ := by
  have hpoll : (if isolated then isolate inner.run flag else inner.run flag) =
      { inner.run (isolated || flag) with flag } := by
    cases isolated with
    | true => rfl
    | false => exact congrArg (Polled.mk _ _) (flag_run inner flag)
  simp only [run, hpoll]
  cases (inner.run (isolated || flag)).ending.answer? isolated with
  | none => rfl
  | some answer =>
    exact congrArg (Polled.mk _ _) (flag_run (rest answer) flag)

theorem ending_inside (isolated : Bool) (inner : Poll) (rest : PollAnswer → Poll) (flag : Bool) :
    ((inside isolated inner rest).run flag).ending =
      match (inner.run (isolated || flag)).ending.answer? isolated with
      | none => (inner.run (isolated || flag)).ending
      | some answer => ((rest answer).run flag).ending := by
  rw [run_inside]
  dsimp only
  split <;> rfl

theorem mem_behind {step first : Step} {place : List Step} {b : Bool} {seen : List Sight} :
    ⟨first :: place, b⟩ ∈ seen.map (Sight.behind step) ↔ first = step ∧ ⟨place, b⟩ ∈ seen := by
  rw [List.mem_map]
  constructor
  · rintro ⟨s, hs, h⟩
    cases h
    exact ⟨rfl, hs⟩
  · rintro ⟨rfl, hs⟩
    exact ⟨_, hs, rfl⟩

theorem nil_notMem_behind {step : Step} {b : Bool} {seen : List Sight} :
    ⟨[], b⟩ ∉ seen.map (Sight.behind step) := by
  simp [Sight.behind]

theorem mem_seen_nil {p : Poll} {flag b : Bool} : ⟨[], b⟩ ∈ (p.run flag).seen ↔ b = flag := by
  cases p with
  | finish ending => simp [run]
  | look rest => simp [run, nil_notMem_behind]
  | inside isolated inner rest =>
    rw [run_inside]
    dsimp only
    split <;> simp [nil_notMem_behind]

theorem mem_seen_look {rest : Bool → Poll} {step : Step} {place : List Step} {flag b : Bool} :
    ⟨step :: place, b⟩ ∈ ((look rest).run flag).seen ↔
      step = .looked flag ∧ ⟨place, b⟩ ∈ ((rest flag).run flag).seen := by
  simp [run, mem_behind]

theorem mem_seen_inside {isolated : Bool} {inner : Poll} {rest : PollAnswer → Poll} {step : Step}
    {place : List Step} {flag b : Bool} :
    ⟨step :: place, b⟩ ∈ ((inside isolated inner rest).run flag).seen ↔
      (step = .into ∧ ⟨place, b⟩ ∈ (inner.run (isolated || flag)).seen) ∨
        ∃ answer, (inner.run (isolated || flag)).ending.answer? isolated = some answer ∧
          step = .after answer ∧ ⟨place, b⟩ ∈ ((rest answer).run flag).seen := by
  rw [run_inside]
  dsimp only
  split <;> rename_i h <;> simp [h, mem_behind]

theorem flag_eq_true_iff {p : Poll} {flag b : Bool} {place : List Step}
    (h : ⟨place, b⟩ ∈ (p.run flag).seen) :
    b = true ↔ flag = true ∨ ∃ outer, p.Encloses outer place := by
  induction place generalizing p flag with
  | nil => simp [mem_seen_nil.1 h, not_encloses_nil]
  | cons step place ih =>
    rw [exists_encloses_cons]
    cases p with
    | finish ending => simp [run] at h
    | look rest =>
      obtain ⟨rfl, hrest⟩ := mem_seen_look.1 h
      rw [ih hrest]
      simp [at?]
    | inside isolated inner rest =>
      obtain ⟨rfl, hinner⟩ | ⟨answer, -, rfl, hrest⟩ := mem_seen_inside.1 h
      · rw [ih hinner]
        cases isolated <;> simp [at?]
      · rw [ih hrest]
        simp [at?]

/-- What is seen behind a place is what the part of the poll from there on sees. -/
theorem mem_seen_append {p part : Poll} {flag b c : Bool} {place tail : List Step}
    (h : ⟨place, b⟩ ∈ (p.run flag).seen) (hpart : p.at? place = some part) :
    ⟨place ++ tail, c⟩ ∈ (p.run flag).seen ↔ ⟨tail, c⟩ ∈ (part.run b).seen := by
  induction place generalizing p flag with
  | nil =>
    rw [at?_nil] at hpart
    cases hpart
    rw [mem_seen_nil.1 h, List.nil_append]
  | cons step place ih =>
    cases p with
    | finish ending => simp [run] at h
    | look rest =>
      obtain ⟨rfl, hrest⟩ := mem_seen_look.1 h
      rw [List.cons_append, mem_seen_look, ih hrest hpart, and_iff_right rfl]
    | inside isolated inner rest =>
      rw [List.cons_append, mem_seen_inside]
      obtain ⟨rfl, hinner⟩ | ⟨answer, hanswer, rfl, hrest⟩ := mem_seen_inside.1 h
      · simp [ih hinner hpart]
      · simp [hanswer, ih hrest hpart]

theorem mem_seen_after_isolated {p inner : Poll} {rest : PollAnswer → Poll} {flag b c : Bool}
    {place : List Step} (h : ⟨place, b⟩ ∈ (p.run flag).seen)
    (hinside : p.at? place = some (.inside true inner rest)) (answer : PollAnswer) :
    ⟨place ++ [.after answer], c⟩ ∈ (p.run flag).seen ↔
      answer = (inner.run true).ending.caught ∧ c = b := by
  have hcaught : (inner.run true).ending.answer? true = some (inner.run true).ending.caught := rfl
  rw [mem_seen_append h hinside, mem_seen_inside, Bool.true_or, hcaught]
  simp [mem_seen_nil, eq_comm]

/-- A breakdown ends the closest isolated poll around it, which tells of a failure; if there is none,
it ends the whole poll. -/
theorem caught_or_broken {p : Poll} {flag b : Bool} {place : List Step}
    (h : ⟨place, b⟩ ∈ (p.run flag).seen) (hbroken : p.at? place = some (.finish .broken)) :
    (∃ outer, p.ClosestEncloses outer place ∧
      ∃ after, ⟨outer ++ [.after .failed], after⟩ ∈ (p.run flag).seen) ∨
    (∀ outer, ¬ p.Encloses outer place) ∧ (p.run flag).ending = .broken := by
  induction place generalizing p flag with
  | nil =>
    rw [at?_nil] at hbroken
    cases hbroken
    exact .inr ⟨not_encloses_nil _, rfl⟩
  | cons step place ih =>
    cases p with
    | finish ending => simp [run] at h
    | look rest =>
      obtain ⟨rfl, hrest⟩ := mem_seen_look.1 h
      obtain ⟨outer, hclosest, after, hafter⟩ | ⟨hnone, hending⟩ := ih hrest hbroken
      · exact .inl ⟨_, hclosest.cons (at?_nil _), after, mem_seen_look.2 ⟨rfl, hafter⟩⟩
      · exact .inr ⟨not_encloses_cons hnone (at?_nil _) nofun, hending⟩
    | inside isolated inner rest =>
      obtain ⟨rfl, hinner⟩ | ⟨answer, hanswer, rfl, hrest⟩ := mem_seen_inside.1 h
      · obtain ⟨outer, hclosest, after, hafter⟩ | ⟨hnone, hending⟩ := ih hinner hbroken
        · exact .inl ⟨_, hclosest.cons (at?_nil _), after, mem_seen_inside.2 (.inl ⟨rfl, hafter⟩)⟩
        · -- Nothing inside this poll catches the breakdown, so it depends on this one.
          cases isolated with
          | true =>
            have hfailed : (inner.run (true || flag)).ending.answer? true = some .failed := by
              rw [hending]
              rfl
            exact .inl ⟨[], closestEncloses_nil hnone rest, flag,
              mem_seen_inside.2 (.inr ⟨.failed, hfailed, rfl, mem_seen_nil.2 rfl⟩)⟩
          | false =>
            refine .inr ⟨not_encloses_cons hnone (at?_nil _) nofun, ?_⟩
            rw [ending_inside, hending]
            rfl
      · obtain ⟨outer, hclosest, after, hafter⟩ | ⟨hnone, hending⟩ := ih hrest hbroken
        · exact .inl ⟨_, hclosest.cons (at?_nil _), after,
            mem_seen_inside.2 (.inr ⟨answer, hanswer, rfl, hafter⟩)⟩
        · refine .inr ⟨not_encloses_cons hnone (at?_nil _) nofun, ?_⟩
          rw [ending_inside, hanswer]
          exact hending

/-- A poll is seen from its beginning on. The flag at every place that it comes to is up just if it
was up before or some isolated poll encloses the place. After every isolated poll, whatever happened
inside it, the poll goes on with what that tells and with the flag as it was before. A breakdown goes
no further than the closest isolated poll around it, and out of the whole poll only if there is none.
The flag is left as it was found. -/
theorem flag_follows_isolation (p : Poll) (flag : Bool) :
    let seen := (p.run flag).seen
    ⟨[], flag⟩ ∈ seen ∧
    (∀ s ∈ seen, s.flag = true ↔ flag = true ∨ ∃ outer, p.Encloses outer s.place) ∧
    (∀ s ∈ seen, ∀ inner rest, p.at? s.place = some (.inside true inner rest) →
      ∀ answer after, ⟨s.place ++ [.after answer], after⟩ ∈ seen ↔
        answer = (inner.run true).ending.caught ∧ after = s.flag) ∧
    (∀ s ∈ seen, p.at? s.place = some (.finish .broken) →
      (∃ outer, p.ClosestEncloses outer s.place ∧ ∃ after, ⟨outer ++ [.after .failed], after⟩ ∈ seen) ∨
      (∀ outer, ¬ p.Encloses outer s.place) ∧ (p.run flag).ending = .broken) ∧
    (p.run flag).flag = flag := by
  intro seen
  refine ⟨mem_seen_nil.2 rfl, fun s hs => flag_eq_true_iff hs,
    fun s hs inner rest hinside answer after => ?_, fun s hs hbroken => caught_or_broken hs hbroken,
    flag_run p flag⟩
  exact mem_seen_after_isolated hs hinside answer

/-- A breakdown inside two isolated tasks: the flag stays up in the outer one and is down after it. -/
example :
    let outer := inside true (finish .broken) fun _ => finish .ready
    let p := inside true outer fun _ => finish .pending
    (p.run false).seen.map Sight.flag = [false, true, true, true, false] := rfl

end Poll
end PagedList

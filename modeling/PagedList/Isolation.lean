/-! Isolation of breakdowns. A thread has a flag, which is up while it polls an isolated task, so that
whoever hears of a breakdown can tell whether it will be caught: inside an isolated task it ends that
poll with an error instead of going on outwards. -/
namespace PagedList

inductive PollEnding where
  | pending
  | ready
  | broken
  deriving DecidableEq, Repr

inductive PollAnswer where
  | pending
  | ready
  /-- The task is isolated and broke down. -/
  | failed
  deriving DecidableEq, Repr

namespace PollEnding

/-- What an isolated poll tells: a breakdown goes no further. -/
def caught : PollEnding → PollAnswer
  | .pending => .pending
  | .ready => .ready
  | .broken => .failed

/-- What a poll tells, unless a breakdown goes on outwards. -/
def answer? (isolated : Bool) (ending : PollEnding) : Option PollAnswer :=
  if isolated || ending ≠ .broken then some ending.caught else none

end PollEnding

/-- What happens during one poll of a task, in order. -/
inductive Poll where
  | finish (ending : PollEnding)
  /-- Looks at the flag and goes on accordingly. -/
  | look (rest : Bool → Poll)
  /-- Polls another task, isolated or not, and goes on with what that tells. -/
  | inside (isolated : Bool) (inner : Poll) (rest : PollAnswer → Poll)

namespace Poll

/-- A step from one place in a poll to the next. -/
inductive Step where
  | looked (flag : Bool)
  /-- Into the poll of another task. -/
  | into
  /-- Back from it, with what it told. -/
  | after (answer : PollAnswer)
  deriving DecidableEq, Repr

/-- The flag at a place, which is known by the steps that lead there. -/
structure Sight where
  place : List Step
  flag : Bool
  deriving DecidableEq, Repr

def Sight.behind (step : Step) (s : Sight) : Sight := ⟨step :: s.place, s.flag⟩

end Poll

/-- What came of a poll: the flag at every place that was come to, how the poll ended, and the flag
after it. -/
structure Polled where
  seen : List Poll.Sight
  ending : PollEnding
  flag : Bool
  deriving DecidableEq, Repr

/-- Keeps what the flag was before it was put up. -/
structure Guard where
  before : Bool

namespace Guard

def enter (flag : Bool) : Guard × Bool := (⟨flag⟩, true)

/-- Puts the flag back as it was, wherever it is by now. -/
def leave (g : Guard) (_ : Bool) : Bool := g.before

end Guard

/-- Polls under a guard, which puts the flag back however the poll ends. -/
def isolate (poll : Bool → Polled) (flag : Bool) : Polled :=
  let (guard, up) := Guard.enter flag
  let polled := poll up
  { polled with flag := guard.leave polled.flag }

namespace Poll

def run : Poll → Bool → Polled
  | .finish ending, flag => ⟨[⟨[], flag⟩], ending, flag⟩
  | .look rest, flag =>
    let r := (rest flag).run flag
    { r with seen := ⟨[], flag⟩ :: r.seen.map (Sight.behind (.looked flag)) }
  | .inside isolated inner rest, flag =>
    let i := if isolated then isolate inner.run flag else inner.run flag
    let seen := ⟨[], flag⟩ :: i.seen.map (Sight.behind .into)
    match i.ending.answer? isolated with
    | none => { i with seen }
    | some answer =>
      let r := (rest answer).run i.flag
      { r with seen := seen ++ r.seen.map (Sight.behind (.after answer)) }

end Poll
end PagedList

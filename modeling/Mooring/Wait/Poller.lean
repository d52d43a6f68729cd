import Mooring.Wait.Error
namespace Mooring.Wait

def defaultInterval : Nat := 500

def defaultTimeout : Nat := 10000

inductive WaitState where
  | idle
  | polling
  | satisfied
  | timedOut
  | failed
  deriving DecidableEq

def WaitState.toText : WaitState → String
  | .idle => "Idle"
  | .polling => "Polling"
  | .satisfied => "Satisfied"
  | .timedOut => "TimedOut"
  | .failed => "Failed"

/-- When the cancellation comes, if at all: before the wait starts, or this many milliseconds
after it started. -/
inductive Cancellation where
  | never
  | before
  | after (ms : Nat)
  deriving DecidableEq

def Cancellation.moment : Cancellation → Option Nat
  | .never => none
  | .before => some 0
  | .after ms => some ms

/-- An answer, and the milliseconds it took to come. -/
structure Timed (α : Type) where
  answer : α
  took : Nat

structure Check (m : Type → Type) where
  label : String
  /-- Whether the check waits for the container to exit, which turns the running guard off. -/
  expectsExit : Bool
  /-- One evaluation: passed, not yet, or an error that ends the wait. -/
  poll : m (Timed (Except WaitError Bool))
  cleanup : m Unit

structure Poller (m : Type → Type) where
  checks : List (Check m)
  interval : Nat
  timeout : Nat
  /-- The pause taken instead when there are no checks. -/
  minIdle : Option Nat
  /-- Fails once the container no longer runs. -/
  guard : Option (m (Timed (Except WaitError Unit)))

structure WaitRun where
  result : Except WaitError Unit
  elapsed : Nat

/-- What ends a wait before every check has passed. -/
inductive Stop where
  | failed (e : WaitError)
  | cancelled (moment : Nat)
  | timedOut

namespace Poller

variable {m : Type → Type} [Monad m]

def new (interval timeout : Nat) : Poller m := ⟨[], interval, timeout, none, none⟩

def isEmpty (p : Poller m) : Bool := p.checks.isEmpty && p.minIdle.isNone

def describe (p : Poller m) : String := " and ".intercalate (p.checks.map (·.label))

def pendingLabels (p : Poller m) (passed : List Bool) : String :=
  " and ".intercalate ((p.checks.zip passed).filterMap fun (c, done) =>
    if done then none else some c.label)

/-- The moment the deadline fires: the first millisecond after the budget. -/
def deadline (p : Poller m) : Nat := p.timeout + 1

/-- What ends the wait from outside while its polling is busy or paused from `t` until `t'`:
the cancellation, fired from `t` on, before `t'` and before the deadline; else the deadline, by
`t'`. A step that takes no time leaves room for neither. -/
def cut (p : Poller m) (cancelAt : Option Nat) (t t' : Nat) : Option Stop :=
  match cancelAt with
  | some c => if t ≤ c ∧ c < t' ∧ c < p.deadline then some (.cancelled c) else byDeadline
  | none => byDeadline
where
  byDeadline : Option Stop := if t < t' ∧ p.deadline ≤ t' then some .timedOut else none

/-- How the wait ends on a stop at `t`, with the checks that had passed. -/
def ended (p : Poller m) (passed : List Bool) (t : Nat) : Stop → WaitRun
  | .failed e => ⟨.error (e.withPending (p.pendingLabels passed)), t⟩
  | .cancelled c => ⟨.error (.cancelled c), c⟩
  | .timedOut => ⟨.error (.timeout p.deadline (p.pendingLabels passed)), p.deadline⟩

/-- The running guard's part of a round at `now`: the time after it, and what stopped the wait. -/
def consultGuard (p : Poller m) (cancelAt : Option Nat) (guarded : Bool) (now : Nat) :
    m (Nat × Option Stop) :=
  match guarded, p.guard with
  | true, some guard => do
    let ⟨answer, took⟩ ← guard
    match p.cut cancelAt now (now + took), answer with
    | some stop, _ => return (now + took, some stop)
    | none, .error e => return (now + took, some (.failed e))
    | none, .ok () => return (now + took, none)
  | _, _ => return (now, none)

/-- Polls, in order from time `t`, the checks that have not passed. Gives which checks have
passed, the time the round ended, and what stopped the wait: an error, or the deadline or the
cancellation overtaking a poll, whose answer is then lost. -/
def pollRound (p : Poller m) (cancelAt : Option Nat) :
    List (Check m) → List Bool → Nat → m (List Bool × Nat × Option Stop)
  | c :: cs, done :: dones, t => do
    if done then
      let (rest, t', stop) ← pollRound p cancelAt cs dones t
      return (true :: rest, t', stop)
    let ⟨answer, took⟩ ← c.poll
    match p.cut cancelAt t (t + took), answer with
    | some stop, _ => return (false :: dones, t + took, some stop)
    | none, .error e => return (false :: dones, t + took, some (.failed e))
    | none, .ok passed =>
      let (rest, t', stop) ← pollRound p cancelAt cs dones (t + took)
      return (passed :: rest, t', stop)
  | _, _, t => return ([], t, none)

/-- Rounds from time `now` on, at most `fuel` of them, with the checks that passed so far; a
round that leaves a check pending is followed by the pause of one interval. -/
def rounds (p : Poller m) (cancelAt : Option Nat) (guarded : Bool) :
    Nat → Nat → List Bool → m WaitRun
  | 0, _, passed => return p.ended passed p.deadline .timedOut
  | fuel + 1, now, passed => do
    let (t, stop) ← p.consultGuard cancelAt guarded now
    if let some stop := stop then return p.ended passed t stop
    let (passed, t, stop) ← p.pollRound cancelAt p.checks passed t
    if let some stop := stop then return p.ended passed t stop
    if passed.all id then return ⟨.ok (), t⟩
    if let some stop := p.cut cancelAt t (t + p.interval) then return p.ended passed t stop
    rounds p cancelAt guarded fuel (t + p.interval) passed

/-- The pause of a poller without checks. -/
def idle (p : Poller m) (cancel : Cancellation) : WaitRun :=
  match p.minIdle, cancel with
  | none, _ => ⟨.ok (), 0⟩
  | some _, .before => ⟨.error (.cancelled 0), 0⟩
  | some pause, .after c => if c < pause then ⟨.error (.cancelled c), c⟩ else ⟨.ok (), pause⟩
  | some pause, .never => ⟨.ok (), pause⟩

/-- Runs the wait, then cleans every check up. -/
def wait (p : Poller m) (cancel : Cancellation) : m WaitRun := do
  let run ← if p.checks.isEmpty then pure (p.idle cancel)
    else if cancel == .before then pure ⟨.error (.cancelled 0), 0⟩
    else
      let guarded := !p.checks.any (·.expectsExit)
      p.rounds (Cancellation.moment cancel) guarded (p.deadline + 2) 0
        (p.checks.map fun _ => false)
  for c in p.checks do
    c.cleanup
  return run

end Poller

def WaitRun.state (r : WaitRun) : WaitState :=
  match r.result with
  | .ok () => .satisfied
  | .error e => if e.isTimeout then .timedOut else .failed

end Mooring.Wait

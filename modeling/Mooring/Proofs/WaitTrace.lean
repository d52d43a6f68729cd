import Mooring.Wait.Poller
namespace Mooring.Wait

/-- What a wait does that its checks can see. -/
inductive Event where
  | guard (answer : Except WaitError Unit)
  | poll (check : Nat) (answer : Except WaitError Bool)
  | cleanup (check : Nat)

namespace Event

/-- Check `i` answered that it passed. -/
def passes (i : Nat) : Event → Bool
  | .poll j (.ok true) => j == i
  | _ => false

/-- The error answered, by a check or by the guard. -/
def error? : Event → Option WaitError
  | .guard (.error e) => some e
  | .poll _ (.error e) => some e
  | _ => none

def isPoll : Event → Bool
  | .poll .. => true
  | _ => false

def check : Event → Nat
  | .poll i _ => i
  | .cleanup i => i
  | .guard _ => 0

theorem check_of_passes {ev : Event} {i : Nat} (h : ev.passes i = true) : ev.check = i := by
  rcases ev with _ | ⟨j, _ | _ | _⟩ | _ <;> simp_all [passes, check]

theorem passes_of_not_isPoll {ev : Event} (h : ev.isPoll = false) (i : Nat) :
    ev.passes i = false := by
  rcases ev with _ | _ | _ <;> simp_all [passes, isPoll]

end Event

/-- What may come after an event in a wait's log: no poll of a check once it answered that it
passed, and no poll or guard consult once an error was answered. -/
def MayFollow : Event → Event → Prop
  | .poll i (.ok true), .poll j _ => i ≠ j
  | .poll _ (.error _), .poll .. => False
  | .poll _ (.error _), .guard _ => False
  | .guard (.error _), .poll .. => False
  | .guard (.error _), .guard _ => False
  | _, _ => True

/-- A wait whose checks and guard log what they answer. -/
abbrev Traced := StateM (List Event)

/-- The answers of the checks: check `i`'s answer to a poll, and how long it takes, given
everything logged before. -/
abbrev PollScript := List Event → Nat → Timed (Except WaitError Bool)

def scriptedCheck (answer : PollScript) (i : Nat) (label : String) (expectsExit : Bool) :
    Check Traced where
  label := label
  expectsExit := expectsExit
  poll := modifyGet fun log => (answer log i, log ++ [.poll i (answer log i).answer])
  cleanup := modify (· ++ [.cleanup i])

/-- The checks of `specs` (label, and whether it waits for the exit), numbered from `k`. -/
def scriptedChecks (answer : PollScript) : List (String × Bool) → Nat → List (Check Traced)
  | [], _ => []
  | (label, exits) :: specs, k =>
    scriptedCheck answer k label exits :: scriptedChecks answer specs (k + 1)

def scriptedGuard (answer : List Event → Timed (Except WaitError Unit)) :
    Traced (Timed (Except WaitError Unit)) :=
  modifyGet fun log => (answer log, log ++ [.guard (answer log).answer])

def scriptedPoller (answer : PollScript) (specs : List (String × Bool))
    (guard : Option (List Event → Timed (Except WaitError Unit))) (interval timeout : Nat)
    (minIdle : Option Nat) : Poller Traced :=
  ⟨scriptedChecks answer specs 0, interval, timeout, minIdle, guard.map scriptedGuard⟩

/-- Which of the checks numbered from `k` have passed, given which had and the log since. -/
def mark (log : List Event) : Nat → List Bool → List Bool
  | _, [] => []
  | k, b :: bs => (b || log.any (·.passes k)) :: mark log (k + 1) bs

@[simp] theorem length_mark (log : List Event) (k : Nat) (bs : List Bool) :
    (mark log k bs).length = bs.length := by
  induction bs generalizing k with
  | nil => rfl
  | cons b bs ih => simp [mark, ih]

theorem mark_append (log log' : List Event) (k : Nat) (bs : List Bool) :
    mark log' k (mark log k bs) = mark (log ++ log') k bs := by
  induction bs generalizing k with
  | nil => rfl
  | cons b bs ih => simp [mark, ih, Bool.or_assoc]

theorem mark_of_not_passes {log : List Event} {k : Nat} (bs : List Bool)
    (h : ∀ ev ∈ log, ∀ i, k ≤ i → ev.passes i = false) : mark log k bs = bs := by
  induction bs generalizing k with
  | nil => rfl
  | cons b bs ih =>
    have hk : log.any (·.passes k) = false := by
      simpa using fun ev hev => h ev hev k (Nat.le_refl k)
    simp only [mark, hk, Bool.or_false, List.cons.injEq, true_and]
    exact ih fun ev hev i hi => h ev hev i (by omega)

@[simp] theorem mark_nil (k : Nat) (bs : List Bool) : mark [] k bs = bs :=
  mark_of_not_passes bs (by simp)

/-- The polls of a round: checks numbered from `k` that had not passed, each polled at most
once, in order. -/
def RoundPolls (k : Nat) (passed : List Bool) (ps : List Event) : Prop :=
  (∀ ev ∈ ps, ev.isPoll ∧ k ≤ ev.check ∧ passed[ev.check - k]? = some false) ∧
    (ps.map Event.check).Pairwise (· < ·)

theorem roundPolls_nil (k : Nat) (passed : List Bool) : RoundPolls k passed [] :=
  ⟨by simp, by simp⟩

theorem RoundPolls.succ {k : Nat} {b : Bool} {passed : List Bool} {ps : List Event}
    (h : RoundPolls (k + 1) passed ps) : RoundPolls k (b :: passed) ps := by
  refine ⟨fun ev hev => ?_, h.2⟩
  obtain ⟨hpoll, hk, hfalse⟩ := h.1 ev hev
  refine ⟨hpoll, by omega, ?_⟩
  have : ev.check - k = ev.check - (k + 1) + 1 := by omega
  rw [this, List.getElem?_cons_succ]
  exact hfalse

theorem RoundPolls.cons {k : Nat} {a : Except WaitError Bool} {passed : List Bool}
    {ps : List Event} (h : RoundPolls (k + 1) passed ps) :
    RoundPolls k (false :: passed) (.poll k a :: ps) := by
  refine ⟨fun ev hev => ?_, ?_⟩
  · rcases List.mem_cons.mp hev with rfl | hev
    · exact ⟨rfl, (Nat.le_refl k), by simp [Event.check]⟩
    · exact (RoundPolls.succ h).1 ev hev
  · refine List.pairwise_cons.mpr ⟨fun j hj => ?_, h.2⟩
    obtain ⟨ev, hev, rfl⟩ := List.mem_map.mp hj
    have := (h.1 ev hev).2.1
    show k < ev.check
    omega

theorem RoundPolls.not_passes {k : Nat} {passed : List Bool} {ps : List Event}
    (h : RoundPolls (k + 1) passed ps) : ∀ ev ∈ ps, ∀ i, i ≤ k → ev.passes i = false := by
  intro ev hev i hi
  obtain ⟨hpoll, hk, -⟩ := h.1 ev hev
  rcases ev with a | ⟨j, _ | _ | _⟩ | j
  all_goals simp_all [Event.passes, Event.check]
  omega

theorem RoundPolls.left {k : Nat} {passed : List Bool} {ps cut : List Event}
    (h : RoundPolls k passed (ps ++ cut)) : RoundPolls k passed ps :=
  ⟨fun ev hev => h.1 ev (List.mem_append_left _ hev), (List.pairwise_append.mp (by simpa using h.2)).1⟩

/-- A stop that comes from outside the checks: the deadline, or the cancellation at its moment. -/
def Stop.Outside (cancelAt : Option Nat) : Stop → Prop
  | .timedOut => True
  | .cancelled c => cancelAt = some c
  | .failed _ => False

/-- The deadline and the cancellation only ever cut a step as themselves. -/
theorem cut_outside {m : Type → Type} [Monad m] {p : Poller m} {cancelAt : Option Nat}
    {t t' : Nat} {s : Stop} (h : p.cut cancelAt t t' = some s) : s.Outside cancelAt := by
  have hdeadline : Poller.cut.byDeadline p t t' = some s → s.Outside cancelAt := by
    unfold Poller.cut.byDeadline
    split
    · intro h
      cases h
      trivial
    · intro h
      cases h
  unfold Poller.cut at h
  rcases cancelAt with _ | c
  · exact hdeadline h
  · dsimp only at h
    by_cases hc : t ≤ c ∧ c < t' ∧ c < p.deadline
    · rw [if_pos hc] at h
      cases h
      rfl
    · rw [if_neg hc] at h
      exact hdeadline h

/-- How a round of polls ended, read off its polls `ps` and the poll `cut` that the deadline or
the cancellation overtook, if one did. -/
inductive RoundEnd (cancelAt : Option Nat) (ps : List Event) : List Event → Option Stop → Prop
  | done : ps.findSome? Event.error? = none → RoundEnd cancelAt ps [] none
  | failed (e : WaitError) : ps.findSome? Event.error? = some e →
      RoundEnd cancelAt ps [] (some (.failed e))
  | cut (ev : Event) (s : Stop) : ps.findSome? Event.error? = none → s.Outside cancelAt →
      RoundEnd cancelAt ps [ev] (some s)

/-- A check's poll that answered, before polls of later checks, tells that check's news only. -/
theorem mark_poll_cons {k : Nat} {b : Bool} {bs : List Bool} {ps : List Event}
    (hlater : RoundPolls (k + 1) bs ps) :
    mark (.poll k (.ok b) :: ps) k (false :: bs) = b :: mark ps (k + 1) bs := by
  have hhead : ∀ ev ∈ [Event.poll k (.ok b)], ∀ i, k + 1 ≤ i → ev.passes i = false := by
    intro ev hev i hi
    rw [List.mem_singleton.mp hev]
    cases b
    · rfl
    · simp only [Event.passes, beq_eq_false_iff_ne]
      omega
  have hrest : mark (.poll k (.ok b) :: ps) (k + 1) bs = mark ps (k + 1) bs := by
    rw [← List.singleton_append, ← mark_append, mark_of_not_passes bs hhead]
  have hk : ps.any (·.passes k) = false := by
    simpa using fun ev hev => hlater.not_passes ev hev k (Nat.le_refl k)
  have hhd : (Event.poll k (.ok b)).passes k = b := by
    cases b <;> simp [Event.passes]
  simp only [mark, List.any_cons, hhd, hk, hrest, Bool.false_or, Bool.or_false]

theorem RoundEnd.cons_ok {cancelAt : Option Nat} {ps cut : List Event} {stop : Option Stop}
    {k : Nat} {b : Bool} (h : RoundEnd cancelAt ps cut stop) :
    RoundEnd cancelAt (.poll k (.ok b) :: ps) cut stop := by
  have hfind : (Event.poll k (.ok b) :: ps).findSome? Event.error? = ps.findSome? Event.error? := by
    simp [List.findSome?_cons, Event.error?]
  cases h with
  | done h => exact .done (hfind.trans h)
  | failed e h => exact .failed e (hfind.trans h)
  | cut ev s h hs => exact .cut ev s (hfind.trans h) hs

theorem traced_run_bind {α β : Type} (x : Traced α) (f : α → Traced β) (log : List Event) :
    (x >>= f).run log = (f (x.run log).1).run (x.run log).2 := rfl

/-- One round of polls, from any time: it polls, in order, the checks that had not passed, and
tells which have passed since; an error, or the deadline or the cancellation overtaking a poll,
ends it. -/
theorem pollRound_run (answer : PollScript) (specs : List (String × Bool)) (p : Poller Traced)
    (cancelAt : Option Nat) (k : Nat) (passed : List Bool) (hlen : passed.length = specs.length)
    (t : Nat) (log : List Event) :
    ∃ ps cut t' stop,
      (p.pollRound cancelAt (scriptedChecks answer specs k) passed t).run log =
        ((mark ps k passed, t', stop), log ++ ps ++ cut) ∧
      RoundPolls k passed (ps ++ cut) ∧ (ps ++ cut).Pairwise (fun ev _ => ev.error? = none) ∧
      RoundEnd cancelAt ps cut stop := by
  induction specs generalizing k passed t log with
  | nil =>
    obtain rfl : passed = [] := List.eq_nil_of_length_eq_zero hlen
    refine ⟨[], [], t, none, ?_, roundPolls_nil k [], List.Pairwise.nil, .done rfl⟩
    simp only [List.append_nil]
    rfl
  | cons s specs ih =>
    obtain ⟨label, exits⟩ := s
    obtain _ | ⟨b, bs⟩ := passed
    · cases hlen
    have hbs : bs.length = specs.length := by simpa using hlen
    cases b with
    | true =>
      obtain ⟨ps, cut, t', stop, hrun, hpolls, herr, hend⟩ := ih (k + 1) bs hbs t log
      refine ⟨ps, cut, t', stop, ?_, hpolls.succ, herr, hend⟩
      simp only [scriptedChecks, Poller.pollRound, if_true]
      rw [traced_run_bind, hrun]
      rfl
    | false =>
      have hpoll : (scriptedCheck answer k label exits).poll.run log =
          (answer log k, log ++ [.poll k (answer log k).answer]) := rfl
      simp only [scriptedChecks, Poller.pollRound, Bool.false_eq_true, if_false]
      rw [traced_run_bind, hpoll]
      generalize answer log k = r
      obtain ⟨a, took⟩ := r
      rcases hcut : p.cut cancelAt t (t + took) with _ | stop
      · cases a with
        | error e =>
          have hquiet : ∀ ev ∈ [Event.poll k (.error e)], ∀ i, k ≤ i → ev.passes i = false := by
            simp [Event.passes]
          refine ⟨[.poll k (.error e)], [], t + took, some (.failed e), ?_,
            by simpa using (roundPolls_nil (k + 1) bs).cons, by simp, .failed e rfl⟩
          rw [mark_of_not_passes _ hquiet, List.append_nil]
          rfl
        | ok b' =>
          obtain ⟨ps, cut, t', stop, hrun, hpolls, herr, hend⟩ :=
            ih (k + 1) bs hbs (t + took) (log ++ [.poll k (.ok b')])
          refine ⟨.poll k (.ok b') :: ps, cut, t', stop, ?_, hpolls.cons,
            List.pairwise_cons.mpr ⟨fun _ _ => rfl, herr⟩, hend.cons_ok⟩
          dsimp only
          rw [traced_run_bind, hrun, mark_poll_cons hpolls.left]
          simp only [List.append_assoc, List.cons_append]
          rfl
      · refine ⟨[], [.poll k a], t + took, some stop, ?_,
          by simpa using (roundPolls_nil (k + 1) bs).cons, by simp, .cut _ stop rfl (cut_outside hcut)⟩
        rw [mark_nil, List.append_nil]
        rfl

/-- How the running guard's part of a round ended: skipped when the round does not consult it,
else its answer, unless the deadline or the cancellation overtook it. -/
inductive GuardEnd (cancelAt : Option Nat) : Bool → List Event → Option Stop → Prop
  | skipped : GuardEnd cancelAt false [] none
  | passed : GuardEnd cancelAt true [.guard (.ok ())] none
  | failed (e : WaitError) : GuardEnd cancelAt true [.guard (.error e)] (some (.failed e))
  | cut (a : Except WaitError Unit) (s : Stop) : s.Outside cancelAt →
      GuardEnd cancelAt true [.guard a] (some s)

/-- The running guard's part of a round, for a poller whose guard logs what it answers. -/
theorem consultGuard_run (p : Poller Traced) (guard : Option (List Event → Timed (Except WaitError Unit)))
    (hguard : p.guard = guard.map scriptedGuard) (cancelAt : Option Nat) (guarded : Bool) (now : Nat)
    (log : List Event) :
    ∃ gs t stop, (p.consultGuard cancelAt guarded now).run log = ((t, stop), log ++ gs) ∧
      GuardEnd cancelAt (guarded && guard.isSome) gs stop := by
  unfold Poller.consultGuard
  rw [hguard]
  rcases guarded with _ | _ <;> rcases guard with _ | g
  case true.some =>
    have hg : (scriptedGuard g).run log = (g log, log ++ [.guard (g log).answer]) := rfl
    dsimp only [Option.map_some]
    rw [traced_run_bind, hg]
    generalize g log = r
    obtain ⟨a, took⟩ := r
    rcases hcut : p.cut cancelAt now (now + took) with _ | s
    · rcases a with e | ⟨⟨⟩⟩
      · exact ⟨_, _, _, rfl, .failed e⟩
      · exact ⟨_, _, _, rfl, .passed⟩
    · exact ⟨_, _, _, rfl, .cut a s (cut_outside hcut)⟩
  all_goals exact ⟨[], _, _, by simp; rfl, .skipped⟩

/-- One round of a wait: the guard's part, then the polls, then the pause before the next. -/
theorem rounds_succ_run (p : Poller Traced) (cancelAt : Option Nat) (guarded : Bool)
    (fuel now : Nat) (passed : List Bool) (log : List Event) :
    (p.rounds cancelAt guarded (fuel + 1) now passed).run log =
      match (p.consultGuard cancelAt guarded now).run log with
      | ((t, some stop), log₁) => (p.ended passed t stop, log₁)
      | ((t, none), log₁) =>
        match (p.pollRound cancelAt p.checks passed t).run log₁ with
        | ((passed', t', some stop), log₂) => (p.ended passed' t' stop, log₂)
        | ((passed', t', none), log₂) =>
          if passed'.all id = true then (⟨.ok (), t'⟩, log₂)
          else match p.cut cancelAt t' (t' + p.interval) with
            | some stop => (p.ended passed' t' stop, log₂)
            | none => (p.rounds cancelAt guarded fuel (t' + p.interval) passed').run log₂ := by
  rw [Poller.rounds, traced_run_bind]
  rcases (p.consultGuard cancelAt guarded now).run log with ⟨⟨t, _ | stop⟩, log₁⟩
  · dsimp only
    rw [traced_run_bind]
    rcases (p.pollRound cancelAt p.checks passed t).run log₁ with ⟨⟨passed', t', _ | stop⟩, log₂⟩
    · dsimp only
      by_cases hall : passed'.all id = true
      · simp only [hall, if_true]
        rfl
      · simp only [hall, Bool.false_eq_true, if_false]
        rcases p.cut cancelAt t' (t' + p.interval) with _ | stop <;> rfl
    · rfl
  · rfl

/-- The labels, in order, of the checks numbered from `k` that have not answered that they
passed. -/
def unpassedLabels (log : List Event) : List (String × Bool) → Nat → List String
  | [], _ => []
  | (label, _) :: specs, k =>
    (if log.any (·.passes k) then [] else [label]) ++ unpassedLabels log specs (k + 1)

theorem getElem?_mark_replicate (log : List Event) (k n i : Nat) (hi : i < n) :
    (mark log k (List.replicate n false))[i]? = some (log.any (·.passes (k + i))) := by
  induction n generalizing k i with
  | zero => omega
  | succ n ih =>
    rw [List.replicate_succ, mark]
    cases i with
    | zero => simp
    | succ i =>
      rw [List.getElem?_cons_succ, ih (k + 1) i (by omega)]
      simp [Nat.add_assoc, Nat.add_comm 1 i]

theorem filterMap_pending (answer : PollScript) (log : List Event) (specs : List (String × Bool))
    (k : Nat) :
    ((scriptedChecks answer specs k).zip (mark log k (List.replicate specs.length false))).filterMap
        (fun (c, done) => if done then none else some c.label) =
      unpassedLabels log specs k := by
  induction specs generalizing k with
  | nil => rfl
  | cons s specs ih =>
    obtain ⟨label, exits⟩ := s
    rw [List.length_cons, List.replicate_succ]
    simp only [scriptedChecks, mark, List.zip_cons_cons, List.filterMap_cons, Bool.false_or,
      unpassedLabels, ih]
    cases log.any (·.passes k) <;> rfl

theorem pendingLabels_mark (answer : PollScript) (specs : List (String × Bool))
    (guard : Option (List Event → Timed (Except WaitError Unit))) (interval timeout : Nat)
    (minIdle : Option Nat) (log : List Event) :
    (scriptedPoller answer specs guard interval timeout minIdle).pendingLabels
        (mark log 0 (List.replicate specs.length false)) =
      " and ".intercalate (unpassedLabels log specs 0) := by
  unfold Poller.pendingLabels
  rw [← filterMap_pending answer log specs 0]
  rfl

/-- One round's events: the guard's answer when the round consults the guard, then polls of
checks in increasing order. -/
def RoundShape (consults : Bool) (r : List Event) : Prop :=
  ∃ ps, (if consults then ∃ a, r = .guard a :: ps else r = ps) ∧
    (∀ ev ∈ ps, ev.isPoll) ∧ (ps.map Event.check).Pairwise (· < ·)

def InRounds (consults : Bool) (log : List Event) : Prop :=
  ∃ rs : List (List Event), log = rs.flatten ∧ ∀ r ∈ rs, RoundShape consults r

theorem inRounds_nil (consults : Bool) : InRounds consults [] :=
  ⟨[], rfl, by simp⟩

theorem InRounds.append {consults : Bool} {log r : List Event} (h : InRounds consults log)
    (hr : RoundShape consults r) : InRounds consults (log ++ r) := by
  obtain ⟨rs, rfl, hrs⟩ := h
  refine ⟨rs ++ [r], by simp, fun r' hr' => ?_⟩
  rcases List.mem_append.mp hr' with hr' | hr'
  · exact hrs r' hr'
  · rw [List.mem_singleton.mp hr']
    exact hr

theorem roundShape_of_polls {consults : Bool} {gs ps : List Event} {passed : List Bool}
    (hgs : gs = if consults then [.guard (.ok ())] else []) (hpolls : RoundPolls 0 passed ps) :
    RoundShape consults (gs ++ ps) := by
  refine ⟨ps, ?_, fun ev hev => (hpolls.1 ev hev).1, hpolls.2⟩
  subst hgs
  cases consults
  · rfl
  · exact ⟨.ok (), rfl⟩

theorem mayFollow_of_no_error {a b : Event} (ha : a.error? = none)
    (hb : ∀ i, a.passes i = true → b.isPoll = true → b.check ≠ i) : MayFollow a b := by
  rcases a with (_ | ⟨⟩) | ⟨i, _ | _ | _⟩ | i
  · simp [Event.error?] at ha
  all_goals rcases b with (_ | ⟨⟩) | ⟨j, _ | _ | _⟩ | j
  all_goals first
    | trivial
    | exact (show i ≠ j from fun hij => hb i (by simp [Event.passes]) rfl hij.symm)

theorem mayFollow_of_quiet {a : Event} (ha : a.error? = none ∧ a.isPoll = false) (b : Event) :
    MayFollow a b :=
  mayFollow_of_no_error ha.1 fun i hi _ => by
    rw [Event.passes_of_not_isPoll ha.2] at hi
    cases hi

theorem RoundPolls.follows {k : Nat} {passed : List Bool} {ps : List Event}
    (h : RoundPolls k passed ps) (herr : ps.Pairwise fun ev _ => ev.error? = none) :
    ps.Pairwise MayFollow := by
  have hlt : ps.Pairwise fun a b => a.check < b.check := List.pairwise_map.mp h.2
  refine (herr.and hlt).imp fun {a b} ⟨hna, hab⟩ => mayFollow_of_no_error hna fun i hi _ => ?_
  have := Event.check_of_passes hi
  omega

/-- What holds of a wait's log between rounds: which checks have passed is read off the log,
each event may follow the earlier ones, no error was answered, and the log is whole rounds. -/
structure Between (specs : List (String × Bool)) (consults : Bool) (new : List Event)
    (passed : List Bool) : Prop where
  passed_eq : passed = mark new 0 (List.replicate specs.length false)
  follows : new.Pairwise MayFollow
  no_error : ∀ ev ∈ new, ev.error? = none
  rounds : InRounds consults new

theorem between_nil (specs : List (String × Bool)) (consults : Bool) :
    Between specs consults [] (List.replicate specs.length false) :=
  ⟨(mark_of_not_passes _ (by simp)).symm, List.Pairwise.nil, by simp, inRounds_nil consults⟩

/-- How a wait's rounds end, read off the events `new` whose answers it received and the step
`cut` it abandoned: all checks passed; the first error answered; the deadline; or the
cancellation. A timeout names the checks that have not passed. -/
inductive Ends (specs : List (String × Bool)) (deadline : Nat) (cancelAt : Option Nat)
    (new : List Event) : List Event → Except WaitError Unit → Prop
  | ready : new.findSome? Event.error? = none → (∀ i < specs.length, new.any (·.passes i)) →
      Ends specs deadline cancelAt new [] (.ok ())
  | failed (e : WaitError) : new.findSome? Event.error? = some e →
      Ends specs deadline cancelAt new []
        (.error (e.withPending (" and ".intercalate (unpassedLabels new specs 0))))
  | timedOut (cut : List Event) : new.findSome? Event.error? = none → cut.length ≤ 1 →
      Ends specs deadline cancelAt new cut
        (.error (.timeout deadline (" and ".intercalate (unpassedLabels new specs 0))))
  | cancelled (cut : List Event) (c : Nat) : new.findSome? Event.error? = none → cut.length ≤ 1 →
      cancelAt = some c → Ends specs deadline cancelAt new cut (.error (.cancelled c))

/-- The log of rounds that have ended, and their answer. -/
structure Finished (specs : List (String × Bool)) (consults : Bool) (deadline : Nat)
    (cancelAt : Option Nat) (new cut : List Event) (result : Except WaitError Unit) : Prop where
  follows : (new ++ cut).Pairwise MayFollow
  rounds : InRounds consults (new ++ cut)
  ends : Ends specs deadline cancelAt new cut result

namespace Between

variable {specs : List (String × Bool)} {consults : Bool} {new : List Event} {passed : List Bool}

theorem findSome_eq_none (h : Between specs consults new passed) :
    new.findSome? Event.error? = none :=
  List.findSome?_eq_none_iff.mpr h.no_error

theorem length_passed (h : Between specs consults new passed) : passed.length = specs.length := by
  rw [h.passed_eq, length_mark, List.length_replicate]

theorem passed_of_passes (h : Between specs consults new passed) {i : Nat}
    (hi : i < specs.length) (hpass : new.any (·.passes i) = true) : passed[i]? = some true := by
  rw [h.passed_eq, getElem?_mark_replicate new 0 specs.length i hi, Nat.zero_add, hpass]

/-- The events of a round may follow those of the rounds before. -/
theorem follows_round {gs ps : List Event} (h : Between specs consults new passed)
    (hgs : ∀ ev ∈ gs, ev.error? = none ∧ ev.isPoll = false) (hpolls : RoundPolls 0 passed ps)
    (herr : ps.Pairwise fun ev _ => ev.error? = none) :
    (new ++ (gs ++ ps)).Pairwise MayFollow := by
  have hround : (gs ++ ps).Pairwise MayFollow :=
    List.pairwise_append.mpr ⟨List.pairwise_of_forall_mem_list fun a ha b _ => mayFollow_of_quiet (hgs a ha) b,
      hpolls.follows herr, fun a ha b _ => mayFollow_of_quiet (hgs a ha) b⟩
  refine List.pairwise_append.mpr ⟨h.follows, hround, fun a ha b hb => ?_⟩
  · refine mayFollow_of_no_error (h.no_error a ha) fun i hi hpoll hcheck => ?_
    rcases List.mem_append.mp hb with hb | hb
    · simp [(hgs b hb).2] at hpoll
    -- a check polled in this round had not passed, so it is not one that passed before
    · obtain ⟨-, -, hfalse⟩ := hpolls.1 b hb
      rw [Nat.sub_zero, hcheck] at hfalse
      have hi' : i < specs.length := by
        rw [← h.length_passed]
        exact (List.getElem?_eq_some_iff.mp hfalse).1
      have hpass : new.any (·.passes i) = true := List.any_eq_true.mpr ⟨a, ha, hi⟩
      rw [h.passed_of_passes hi' hpass] at hfalse
      cases hfalse

theorem finished {deadline : Nat} {cancelAt : Option Nat} {result : Except WaitError Unit}
    (h : Between specs consults new passed) (hends : Ends specs deadline cancelAt new [] result) :
    Finished specs consults deadline cancelAt new [] result :=
  ⟨by simpa using h.follows, by simpa using h.rounds, hends⟩

end Between

theorem not_mayFollow_of_errors {a b : Event} (ha : a.error? ≠ none) (hb : b.error? ≠ none) :
    ¬MayFollow a b := by
  rcases a with (_ | _) | ⟨i, _ | _ | _⟩ | i <;> rcases b with (_ | _) | ⟨j, _ | _ | _⟩ | j <;>
    simp_all [Event.error?, MayFollow]

theorem findSome_error_of_mem {log : List Event} (h : log.Pairwise MayFollow) {ev : Event}
    (hev : ev ∈ log) {e : WaitError} (he : ev.error? = some e) :
    log.findSome? Event.error? = some e := by
  obtain ⟨pre, post, rfl⟩ := List.append_of_mem hev
  have hpre : pre.findSome? Event.error? = none := by
    refine List.findSome?_eq_none_iff.mpr fun x hx => ?_
    cases hx' : x.error? with
    | none => rfl
    | some e' =>
      exact absurd ((List.pairwise_append.mp h).2.2 x hx ev (by simp))
        (not_mayFollow_of_errors (by simp [hx']) (by simp [he]))
  simp [List.findSome?_append, hpre, he]

theorem withPending_eq_timeout {e : WaitError} {labels pending : String} {elapsed : Nat}
    (h : e.withPending labels = .timeout elapsed pending) : pending = labels := by
  cases e <;> simp_all [WaitError.withPending]

theorem WaitRun.state_eq_satisfied (run : WaitRun) :
    run.state = .satisfied ↔ run.result = .ok () := by
  rcases run with ⟨_ | ⟨⟩, _⟩
  · simp only [WaitRun.state, reduceCtorEq, iff_false]
    split <;> simp
  · simp [WaitRun.state]

theorem WaitRun.state_eq_timedOut (run : WaitRun) :
    run.state = .timedOut ↔ ∃ elapsed pending, run.result = .error (.timeout elapsed pending) := by
  rcases run with ⟨e | ⟨⟩, _⟩
  · cases e <;> simp [WaitRun.state, WaitError.isTimeout]
  · simp [WaitRun.state]

/-- What a readiness wait promises, given the events `polled` whose answers it received, the
step `cut` it abandoned when the deadline or the cancellation came, and how it ended. -/
structure WaitContract (specs : List (String × Bool)) (consults : Bool) (deadline : Nat)
    (cancel : Cancellation) (polled cut : List Event) (run : WaitRun) : Prop where
  /-- No check is polled again once it passed, and nothing is polled once an error came. -/
  follows : (polled ++ cut).Pairwise MayFollow
  /-- The rounds start with the running guard's answer when the wait consults it. -/
  rounds : InRounds consults (polled ++ cut)
  /-- At most one step is abandoned, and only by the deadline or the cancellation. -/
  abandoned : cut.length ≤ 1 ∧ (cut ≠ [] → (∃ pending, run.result = .error (.timeout deadline pending)) ∨
    ∃ c, cancel.moment = some c ∧ run.result = .error (.cancelled c))
  ready : run.result = .ok () → ∀ i < specs.length, polled.any (·.passes i)
  /-- An error answered by a check or by the guard is the answer. -/
  failed : ∀ ev ∈ polled, ∀ e, ev.error? = some e →
    run.result = .error (e.withPending (" and ".intercalate (unpassedLabels polled specs 0)))
  outcomes : run.result = .ok () ∨ (∃ ev ∈ polled, ev.error? ≠ none) ∨
    run.result = .error (.timeout deadline (" and ".intercalate (unpassedLabels polled specs 0))) ∨
    ∃ c, cancel.moment = some c ∧ run.result = .error (.cancelled c)
  /-- A timeout names, in order and joined by "and", the checks that have not passed. -/
  pending : ∀ elapsed pending, run.result = .error (.timeout elapsed pending) →
    pending = " and ".intercalate (unpassedLabels polled specs 0)
  state : (run.state = .satisfied ↔ run.result = .ok ()) ∧
    (run.state = .timedOut ↔ ∃ elapsed pending, run.result = .error (.timeout elapsed pending))

theorem Finished.contract {specs : List (String × Bool)} {consults : Bool} {deadline : Nat}
    {cancel : Cancellation} {polled cut : List Event} {run : WaitRun}
    (h : Finished specs consults deadline cancel.moment polled cut run.result) :
    WaitContract specs consults deadline cancel polled cut run := by
  obtain ⟨hfollows, hrounds, hends⟩ := h
  have hpolled : polled.Pairwise MayFollow := (List.pairwise_append.mp hfollows).1
  refine ⟨hfollows, hrounds, ?_, fun hok => ?_, fun ev hev e he => ?_, ?_, fun elapsed pending h => ?_,
    WaitRun.state_eq_satisfied run, WaitRun.state_eq_timedOut run⟩
  · generalize run.result = r at hends ⊢
    cases hends with
    | ready | failed => exact ⟨by simp, fun h => absurd rfl h⟩
    | timedOut _ _ hcut => exact ⟨hcut, fun _ => .inl ⟨_, rfl⟩⟩
    | cancelled _ c _ hcut hc => exact ⟨hcut, fun _ => .inr ⟨c, hc, rfl⟩⟩
  · generalize run.result = r at hends hok
    cases hends with
    | ready _ hall => exact hall
    | failed | timedOut | cancelled => cases hok
  · have hfirst := findSome_error_of_mem hpolled hev he
    generalize run.result = r at hends ⊢
    cases hends with
    | failed e' he' =>
      rw [he'] at hfirst
      cases hfirst
      rfl
    | ready hnone | timedOut _ hnone | cancelled _ _ hnone =>
      rw [hnone] at hfirst
      cases hfirst
  · generalize run.result = r at hends ⊢
    cases hends with
    | ready => exact .inl rfl
    | failed e he =>
      obtain ⟨ev, hev, hev'⟩ := List.exists_of_findSome?_eq_some he
      exact .inr (.inl ⟨ev, hev, by simp [hev']⟩)
    | timedOut => exact .inr (.inr (.inl rfl))
    | cancelled _ c _ _ hc => exact .inr (.inr (.inr ⟨c, hc, rfl⟩))
  · generalize run.result = r at hends h
    cases hends with
    | failed e => exact withPending_eq_timeout (Except.error.inj h)
    | timedOut =>
      cases h
      rfl
    | ready | cancelled => cases h

section Scripted

variable (answer : PollScript) (specs : List (String × Bool))
  (guard : Option (List Event → Timed (Except WaitError Unit))) (interval timeout : Nat)
  (minIdle : Option Nat)

theorem ends_outside {new cut : List Event} {passed : List Bool} {cancelAt : Option Nat}
    {s : Stop} (t : Nat) (hs : s.Outside cancelAt)
    (hpassed : passed = mark new 0 (List.replicate specs.length false))
    (hnone : new.findSome? Event.error? = none) (hcut : cut.length ≤ 1) :
    let p := scriptedPoller answer specs guard interval timeout minIdle
    Ends specs p.deadline cancelAt new cut (p.ended passed t s).result := by
  intro p
  cases s with
  | failed e => exact hs.elim
  | cancelled c => exact .cancelled cut c hnone hcut hs
  | timedOut =>
    show Ends specs _ cancelAt new cut (.error (.timeout _ (Poller.pendingLabels _ passed)))
    rw [hpassed, pendingLabels_mark]
    exact .timedOut cut hnone hcut

theorem ends_failed {new : List Event} {passed : List Bool} {cancelAt : Option Nat} {e : WaitError}
    (t : Nat) (hpassed : passed = mark new 0 (List.replicate specs.length false))
    (he : new.findSome? Event.error? = some e) :
    let p := scriptedPoller answer specs guard interval timeout minIdle
    Ends specs p.deadline cancelAt new [] (p.ended passed t (.failed e)).result := by
  intro p
  show Ends specs _ cancelAt new [] (.error (e.withPending (Poller.pendingLabels _ passed)))
  rw [hpassed, pendingLabels_mark]
  exact .failed e he

/-- A round that ends in its guard part: with the guard's error, or cut by the deadline or the
cancellation while the guard was consulted. -/
theorem finished_guard {consults : Bool} {new gs : List Event} {passed : List Bool}
    {cancelAt : Option Nat} {s : Stop} (t : Nat) (h : Between specs consults new passed)
    (hg : GuardEnd cancelAt consults gs (some s)) :
    let p := scriptedPoller answer specs guard interval timeout minIdle
    ∃ polled cut, polled ++ cut = new ++ gs ∧
      Finished specs consults p.deadline cancelAt polled cut (p.ended passed t s).result := by
  intro p
  have hfollows : ∀ a : Except WaitError Unit, (new ++ [Event.guard a]).Pairwise MayFollow :=
    fun a => List.pairwise_append.mpr ⟨h.follows, by simp, fun x hx b hb => by
      refine mayFollow_of_no_error (h.no_error x hx) fun i _ hpoll => ?_
      rw [List.mem_singleton.mp hb] at hpoll
      cases hpoll⟩
  cases hg with
  | failed e =>
    have hrounds : InRounds true (new ++ [Event.guard (.error e)]) :=
      h.rounds.append ⟨[], ⟨.error e, rfl⟩, by simp, by simp⟩
    have hquiet : ∀ ev ∈ [Event.guard (.error e)], ∀ i, 0 ≤ i → ev.passes i = false := by
      simp [Event.passes]
    have hmark : passed =
        mark (new ++ [.guard (.error e)]) 0 (List.replicate specs.length false) := by
      rw [← mark_append, mark_of_not_passes _ hquiet, h.passed_eq]
    have he : (new ++ [Event.guard (.error e)]).findSome? Event.error? = some e := by
      simp [List.findSome?_append, h.findSome_eq_none, Event.error?]
    exact ⟨new ++ [.guard (.error e)], [], by simp, by simpa using hfollows _,
      by simpa using hrounds, ends_failed answer specs guard interval timeout minIdle t hmark he⟩
  | cut a s hs =>
    exact ⟨new, [.guard a], rfl, hfollows a, h.rounds.append ⟨[], ⟨a, rfl⟩, by simp, by simp⟩,
      ends_outside answer specs guard interval timeout minIdle t hs h.passed_eq h.findSome_eq_none
        (by simp)⟩

/-- The polls of a round, after the guard's part `gs`: which checks have passed is read off the
longer log, its events may follow the earlier ones, and the round is whole. -/
theorem round_polls {consults : Bool} {new gs ps cut : List Event} {passed : List Bool}
    (h : Between specs consults new passed)
    (hgs : gs = if consults then [.guard (.ok ())] else [])
    (hpolls : RoundPolls 0 passed (ps ++ cut))
    (herr : (ps ++ cut).Pairwise fun ev _ => ev.error? = none) :
    mark ps 0 passed = mark (new ++ (gs ++ ps)) 0 (List.replicate specs.length false) ∧
      (new ++ (gs ++ ps) ++ cut).Pairwise MayFollow ∧ InRounds consults (new ++ (gs ++ ps)) ∧
      InRounds consults (new ++ (gs ++ ps) ++ cut) ∧
      (new ++ (gs ++ ps)).findSome? Event.error? = ps.findSome? Event.error? := by
  have hquiet : ∀ ev ∈ gs, ev.error? = none ∧ ev.isPoll = false := by
    subst hgs
    cases consults <;> simp [Event.error?, Event.isPoll]
  have hfollows := h.follows_round hquiet hpolls herr
  refine ⟨?_, by simpa using hfollows, h.rounds.append (roundShape_of_polls hgs hpolls.left),
    by simpa using h.rounds.append (roundShape_of_polls hgs hpolls), ?_⟩
  · have hgs_marks : mark gs 0 (mark new 0 (List.replicate specs.length false)) =
        mark new 0 (List.replicate specs.length false) :=
      mark_of_not_passes _ fun ev hev i _ => Event.passes_of_not_isPoll (hquiet ev hev).2 i
    rw [← List.append_assoc, ← mark_append, ← mark_append, hgs_marks, ← h.passed_eq]
  · have hgs_none : gs.findSome? Event.error? = none :=
      List.findSome?_eq_none_iff.mpr fun ev hev => (hquiet ev hev).1
    simp [List.findSome?_append, h.findSome_eq_none, hgs_none]

theorem all_passed_of_mark {log : List Event} {n : Nat}
    (h : (mark log 0 (List.replicate n false)).all id = true) :
    ∀ i < n, log.any (·.passes i) = true := by
  intro i hi
  have hmem : log.any (·.passes i) ∈ mark log 0 (List.replicate n false) := by
    have := getElem?_mark_replicate log 0 n i hi
    rw [Nat.zero_add] at this
    exact List.mem_of_getElem? this
  simpa using List.all_eq_true.mp h _ hmem

theorem GuardEnd.eq_of_none {cancelAt : Option Nat} {consults : Bool} {gs : List Event}
    (h : GuardEnd cancelAt consults gs none) : gs = if consults then [.guard (.ok ())] else [] := by
  cases h <;> rfl

/-- One round of a wait: it ends, with a log and an answer that `Finished` describes, or it keeps
what holds between rounds and hands over to the next round, at some later time. -/
theorem round_step (cancelAt : Option Nat) (guarded : Bool) (fuel now : Nat)
    (passed : List Bool) (start new : List Event)
    (h : Between specs (guarded && guard.isSome) new passed) :
    let p := scriptedPoller answer specs guard interval timeout minIdle
    let run := (p.rounds cancelAt guarded (fuel + 1) now passed).run (start ++ new)
    (∃ polled cut, run.2 = start ++ (polled ++ cut) ∧
        Finished specs (guarded && guard.isSome) p.deadline cancelAt polled cut run.1.result) ∨
      ∃ r passed' now', run =
          (p.rounds cancelAt guarded fuel now' passed').run (start ++ (new ++ r)) ∧
        Between specs (guarded && guard.isSome) (new ++ r) passed' := by
  intro p run
  simp only [run, rounds_succ_run]
  obtain ⟨gs, t, gstop, hg, hgend⟩ := consultGuard_run p guard rfl cancelAt guarded now (start ++ new)
  rw [hg]
  generalize (guarded && guard.isSome) = consults at h hgend ⊢
  rcases gstop with _ | s
  case some =>
    obtain ⟨polled, cut, hlog, hfin⟩ :=
      finished_guard answer specs guard interval timeout minIdle t h hgend
    exact .inl ⟨polled, cut, by rw [hlog, List.append_assoc], hfin⟩
  obtain ⟨ps, cut, t', stop, hrun, hpolls, herr, hend⟩ :=
    pollRound_run answer specs p cancelAt 0 passed h.length_passed t (start ++ new ++ gs)
  obtain ⟨hmark, hfollows, hrounds, hrounds_cut, hfind⟩ :=
    round_polls specs h hgend.eq_of_none hpolls herr
  have hrun' : (p.pollRound cancelAt p.checks passed t).run (start ++ new ++ gs) =
      ((mark ps 0 passed, t', stop), start ++ new ++ gs ++ ps ++ cut) := hrun
  dsimp only
  rw [hrun']
  have hlog : start ++ new ++ gs ++ ps = start ++ (new ++ (gs ++ ps)) := by simp
  cases hend with
  | failed e he =>
    exact .inl ⟨_, [], by simp, by simpa using hfollows, by simpa using hrounds,
      ends_failed answer specs guard interval timeout minIdle t' hmark (hfind.trans he)⟩
  | cut ev s hnone hs =>
    exact .inl ⟨_, [ev], by simp, hfollows, hrounds_cut,
      ends_outside answer specs guard interval timeout minIdle t' hs hmark (hfind.trans hnone)
        (by simp)⟩
  | done hnone =>
    dsimp only
    rw [List.append_nil, hlog]
    by_cases hall : (mark ps 0 passed).all id = true
    · simp only [hall, if_true]
      refine .inl ⟨_, [], by simp, by simpa using hfollows, by simpa using hrounds, .ready (hfind.trans hnone) ?_⟩
      exact all_passed_of_mark (hmark ▸ hall)
    simp only [hall, Bool.false_eq_true, if_false]
    rcases hpause : p.cut cancelAt t' (t' + p.interval) with _ | s
    · exact .inr ⟨gs ++ ps, _, _, rfl,
        ⟨hmark, by simpa using hfollows, List.findSome?_eq_none_iff.mp (hfind.trans hnone), hrounds⟩⟩
    · exact .inl ⟨_, [], by simp, by simpa using hfollows, by simpa using hrounds,
        ends_outside answer specs guard interval timeout minIdle t' (cut_outside hpause) hmark
          (hfind.trans hnone) (by simp)⟩

/-- Every run of rounds, from a log that holds between rounds, ends as `Finished` describes. -/
theorem rounds_finished (cancelAt : Option Nat) (guarded : Bool) (fuel : Nat) :
    ∀ now passed start new, Between specs (guarded && guard.isSome) new passed →
      let p := scriptedPoller answer specs guard interval timeout minIdle
      let run := (p.rounds cancelAt guarded fuel now passed).run (start ++ new)
      ∃ polled cut, run.2 = start ++ (polled ++ cut) ∧
        Finished specs (guarded && guard.isSome) p.deadline cancelAt polled cut run.1.result := by
  -- induction on the rounds left; each round ends the wait or keeps `Between`
  induction fuel with
  | zero =>
    intro now passed start new h
    have htimeout : Stop.Outside cancelAt .timedOut := trivial
    exact ⟨new, [], by rw [List.append_nil]; rfl, h.finished (ends_outside answer specs guard
      interval timeout minIdle _ htimeout h.passed_eq h.findSome_eq_none (Nat.zero_le 1))⟩
  | succ fuel ih =>
    intro now passed start new h
    rcases round_step answer specs guard interval timeout minIdle cancelAt guarded fuel now passed
      start new h with hend | ⟨r, passed', now', hrun, h'⟩
    · exact hend
    · dsimp only at hrun ⊢
      rw [hrun]
      exact ih now' passed' start (new ++ r) h'

/-- Cleaning the checks up logs one cleanup of each, in order. -/
theorem cleanups_run (specs : List (String × Bool)) (k : Nat) (log : List Event) :
    (forIn (scriptedChecks answer specs k) PUnit.unit fun c (_ : PUnit) => do
        c.cleanup
        pure (ForInStep.yield PUnit.unit) : Traced PUnit).run log =
      (PUnit.unit, log ++ (List.range' k specs.length).map Event.cleanup) := by
  induction specs generalizing k log with
  | nil => simp [scriptedChecks]; rfl
  | cons s specs ih =>
    obtain ⟨label, exits⟩ := s
    have hstep : (forIn (scriptedChecks answer ((label, exits) :: specs) k) PUnit.unit
          fun c (_ : PUnit) => do
            c.cleanup
            pure (ForInStep.yield PUnit.unit) : Traced PUnit).run log =
        (forIn (scriptedChecks answer specs (k + 1)) PUnit.unit fun c (_ : PUnit) => do
            c.cleanup
            pure (ForInStep.yield PUnit.unit) : Traced PUnit).run (log ++ [.cleanup k]) := by
      simp only [scriptedChecks, List.forIn_cons]
      rfl
    rw [hstep, ih (k + 1)]
    simp [List.range'_succ]

theorem length_scriptedChecks (specs : List (String × Bool)) (k : Nat) :
    (scriptedChecks answer specs k).length = specs.length := by
  induction specs generalizing k with
  | nil => rfl
  | cons s specs ih => simp [scriptedChecks, ih]

theorem any_expectsExit_scriptedChecks (specs : List (String × Bool)) (k : Nat) :
    (scriptedChecks answer specs k).any (·.expectsExit) = specs.any (·.2) := by
  induction specs generalizing k with
  | nil => rfl
  | cons s specs ih => simp [scriptedChecks, scriptedCheck, ih]

/-- A wait in its phases: the pause without checks, the cancellation before it starts, or its
rounds from time 0 with no check passed; then every check cleaned up. -/
theorem wait_run (cancel : Cancellation) (log : List Event) :
    let p := scriptedPoller answer specs guard interval timeout minIdle
    (p.wait cancel).run log =
      let (run, log') :=
        if specs.isEmpty = true then (p.idle cancel, log)
        else if (cancel == .before) = true then (⟨.error (.cancelled 0), 0⟩, log)
        else (p.rounds cancel.moment (!specs.any (·.2)) (p.deadline + 2) 0
          (List.replicate specs.length false)).run log
      (run, log' ++ (List.range specs.length).map Event.cleanup) := by
  intro p
  have hclean : ∀ (run : WaitRun) (log' : List Event),
      (do
        forIn p.checks PUnit.unit fun c (_ : PUnit) => do
          c.cleanup
          pure (ForInStep.yield PUnit.unit)
        pure run : Traced WaitRun).run log' =
        (run, log' ++ (List.range specs.length).map Event.cleanup) := by
    intro run log'
    rw [traced_run_bind]
    change (pure run : Traced WaitRun).run
      ((forIn (scriptedChecks answer specs 0) PUnit.unit fun c (_ : PUnit) => do
          c.cleanup
          pure (ForInStep.yield PUnit.unit) : Traced PUnit).run log').2 = _
    rw [cleanups_run answer specs 0 log', List.range_eq_range']
    rfl
  have hempty : p.checks.isEmpty = specs.isEmpty := by
    cases specs <;> rfl
  have hreplicate : p.checks.map (fun _ => false) = List.replicate specs.length false := by
    rw [List.map_const']
    exact congrArg (List.replicate · false) (length_scriptedChecks answer specs 0)
  have hany : (p.checks.any fun c => c.expectsExit) = specs.any (·.2) :=
    any_expectsExit_scriptedChecks answer specs 0
  unfold Poller.wait
  dsimp only
  rw [hempty]
  by_cases hs : specs.isEmpty = true
  · simp only [hs, if_true]
    exact hclean _ log
  simp only [hs, Bool.false_eq_true, if_false]
  by_cases hb : (cancel == .before) = true
  · simp only [hb, if_true]
    exact hclean _ log
  simp only [hb, Bool.false_eq_true, if_false]
  rw [traced_run_bind, hclean, hreplicate, hany]

end Scripted

/-- When a cancellation falls within a pause of `pause` ms, if it does; one made before the wait
falls at its start. -/
def Cancellation.within (cancel : Cancellation) (pause : Nat) : Option Nat :=
  match cancel with
  | .never => none
  | .before => some 0
  | .after c => if c < pause then some c else none

theorem idle_eq {m : Type → Type} (p : Poller m) (cancel : Cancellation) :
    p.idle cancel = match p.minIdle with
      | none => ⟨.ok (), 0⟩
      | some pause => match cancel.within pause with
        | some c => ⟨.error (.cancelled c), c⟩
        | none => ⟨.ok (), pause⟩ := by
  unfold Poller.idle
  rcases p.minIdle with _ | pause
  · rfl
  · cases cancel with
    | never | before => rfl
    | after c =>
      simp only [Cancellation.within]
      split <;> rfl

theorem idle_finished {m : Type → Type} (p : Poller m) (consults : Bool) (cancel : Cancellation) :
    Finished [] consults p.deadline cancel.moment [] [] (p.idle cancel).result := by
  refine ⟨List.Pairwise.nil, inRounds_nil consults, ?_⟩
  rw [idle_eq]
  rcases p.minIdle with _ | pause
  · exact .ready rfl (by simp)
  · cases cancel with
    | never => exact .ready rfl (by simp)
    | before => exact .cancelled [] 0 rfl (by simp) rfl
    | after c =>
      by_cases hc : c < pause
      · simp only [Cancellation.within, hc, if_true]
        exact .cancelled [] c rfl (by simp) rfl
      · simp only [Cancellation.within, hc, if_false]
        exact .ready rfl (by simp)

/-- A readiness wait follows its state machine on every run: whatever its checks and its running
guard answer and however long they take, and wherever the deadline and the cancellation fall,
even inside a poll or a consult of the guard, the wait's log is rounds of polls, at most one
step cut short, then one cleanup of every check, in order, and the wait keeps its contract;
without checks it only pauses. -/
theorem wait_keeps_its_contract (answer : PollScript) (specs : List (String × Bool))
    (guard : Option (List Event → Timed (Except WaitError Unit))) (interval timeout : Nat)
    (minIdle : Option Nat) (cancel : Cancellation) (start : List Event) :
    let p := scriptedPoller answer specs guard interval timeout minIdle
    let outcome := (p.wait cancel).run start
    ∃ polled cut, outcome.2 = start ++ polled ++ cut ++ (List.range specs.length).map Event.cleanup ∧
      WaitContract specs (!specs.any (·.2) && guard.isSome) p.deadline cancel polled cut outcome.1 ∧
      (specs = [] → polled = [] ∧ cut = [] ∧ outcome.1 = match minIdle with
        | none => ⟨.ok (), 0⟩
        | some pause => match cancel.within pause with
          | some c => ⟨.error (.cancelled c), c⟩
          | none => ⟨.ok (), pause⟩) := by
  intro p outcome
  have hrun : outcome = _ := wait_run answer specs guard interval timeout minIdle cancel start
  rcases specs with _ | ⟨s, specs⟩
  · simp only [List.isEmpty_nil, if_true] at hrun
    rw [hrun]
    exact ⟨[], [], by simp, (idle_finished p _ cancel).contract,
      fun _ => ⟨rfl, rfl, idle_eq p cancel⟩⟩
  simp only [List.isEmpty_cons, Bool.false_eq_true, if_false] at hrun
  by_cases hbefore : (cancel == .before) = true
  · have hcancel : cancel = .before := by simpa using hbefore
    simp only [hbefore, if_true] at hrun
    rw [hrun]
    refine ⟨[], [], by simp, Finished.contract ⟨List.Pairwise.nil, inRounds_nil _, ?_⟩,
      fun h => by cases h⟩
    rw [hcancel]
    exact .cancelled [] 0 rfl (by simp) rfl
  simp only [hbefore, Bool.false_eq_true, if_false] at hrun
  obtain ⟨polled, cut, hlog, hfinished⟩ := rounds_finished answer (s :: specs) guard interval timeout
    minIdle cancel.moment _ _ 0 _ start [] (between_nil (s :: specs) _)
  rw [List.append_nil] at hlog hfinished
  refine ⟨polled, cut, ?_, ?_, fun h => by cases h⟩
  · rw [hrun]
    simp only
    rw [hlog]
    simp
  · rw [hrun]
    exact hfinished.contract

end Mooring.Wait

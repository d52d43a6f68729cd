import Mooring.Proofs.ContainerRequests
import Mooring.Proofs.StartOrder
import Mooring.Run.Runner
namespace Mooring.Run

open Mooring.Engine Mooring.Wait Mooring.Ports Mooring.Order Mooring.Collections Mooring.Plan

/-- What a run meets outside the engine: the network, the clock and the cancellation token, which
answer from the requests sent so far, the system resolver's names, and the size each pattern
compiles to. -/
structure World where
  connect : List Request → String → Nat → Bool
  fetch : List Request → String → String → Bool → Option Nat
  clock : List Request → Int
  token : List Request → Cancellation
  names : String → Option Net.IpAddr
  regexSize : String → Nat

/-- A run against a scripted engine, in a scripted world. -/
def scriptedEnv (answer : Script) (world : World) : RunEnv (StateM (List Request)) :=
  ⟨answer.transport,
    ⟨fun host port => return world.connect (← get) host port,
      fun method url allow => return world.fetch (← get) method url allow⟩,
    return world.clock (← get), return world.token (← get), world.names, world.regexSize⟩

/-- The outcome of a run step from a runner and a log of requests. -/
abbrev Outcome (α : Type) := (Except RunError α × Runner) × List Request

theorem runM_run_bind {α β : Type} (x : RunM (StateM (List Request)) α)
    (f : α → RunM (StateM (List Request)) β) (r : Runner) (log : List Request) :
    (((x >>= f).run.run r).run log : Outcome β) =
      match ((x.run.run r).run log : Outcome α) with
      | ((.ok a, r'), log') => ((f a).run.run r').run log'
      | ((.error e, r'), log') => ((.error e, r'), log') := by
  simp only [ExceptT.run_bind, StateT.run_bind]
  rcases (x.run.run r).run log with ⟨⟨_ | a, r'⟩, log'⟩ <;> rfl

theorem liftM_run {α : Type} (y : StateM (List Request) α) (r : Runner) (log : List Request) :
    (((liftM y : RunM (StateM (List Request)) α).run.run r).run log : Outcome α) =
      ((.ok (y.run log).1, r), (y.run log).2) := rfl

theorem get_run (r : Runner) (log : List Request) :
    (((MonadState.get : RunM (StateM (List Request)) Runner).run.run r).run log : Outcome Runner) =
      ((.ok r, r), log) := rfl

theorem throw_bind_run {α β : Type} (e : RunError) (f : α → RunM (StateM (List Request)) β)
    (r : Runner) (log : List Request) :
    (((MonadExcept.throw e >>= f : RunM (StateM (List Request)) β).run.run r).run log : Outcome β) =
      ((.error e, r), log) := rfl

theorem modify_run (f : Runner → Runner) (r : Runner) (log : List Request) :
    (((modify f : RunM (StateM (List Request)) PUnit).run.run r).run log : Outcome PUnit) =
      ((.ok PUnit.unit, f r), log) := rfl

theorem exceptLift_run {α : Type} (x : RunM (StateM (List Request)) α) (r : Runner)
    (log : List Request) :
    (((ExceptT.lift x.run : RunM (StateM (List Request)) (Except RunError α)).run.run r).run log :
        Outcome (Except RunError α)) =
      ((.ok ((x.run.run r).run log).1.1, ((x.run.run r).run log).1.2), ((x.run.run r).run log).2) :=
  rfl

theorem onTable_run {α : Type} (step : TableM α) (r : Runner) (log : List Request) :
    (((Runner.onTable step : RunM (StateM (List Request)) α).run.run r).run log : Outcome α) =
      ((((step.run).run r.table).1.mapError RunError.ports,
        { r with table := ((step.run).run r.table).2 }), log) := by
  unfold Runner.onTable
  rw [runM_run_bind, get_run]
  dsimp only
  rcases StateT.run (ExceptT.run step) r.table with ⟨_ | a, t⟩ <;> rfl

theorem engine_run {α : Type} (x : ExceptT EngineError (StateM (List Request)) α) (r : Runner)
    (log : List Request) :
    (((Runner.engine x).run.run r).run log : Outcome α) =
      (((x.run.run log).1.mapError RunError.engine, r), (x.run.run log).2) := by
  unfold Runner.engine
  rw [runM_run_bind, liftM_run]
  rcases x.run.run log with ⟨_ | a, log'⟩ <;> rfl

/-- A run step that keeps the client and the tracked containers, and sends only requests that
neither create nor remove a container. -/
def Calm (c : Client) {α : Type} (x : RunM (StateM (List Request)) α) : Prop :=
  ∀ r log, r.client = c →
    (((x.run.run r).run log : Outcome α).1.2.client = c ∧
      ((x.run.run r).run log : Outcome α).1.2.started = r.started ∧
      ∃ new, ((x.run.run r).run log : Outcome α).2 = log ++ new ∧ ∀ q ∈ new, c.Quiet q)

namespace Calm

variable {c : Client} {α β : Type}

theorem pure (a : α) : Calm c (Pure.pure a : RunM (StateM (List Request)) α) :=
  fun r log hr => ⟨hr, rfl, [], by simp; rfl, by simp⟩

theorem throw (e : RunError) : Calm c (MonadExcept.throw e : RunM (StateM (List Request)) α) :=
  fun r log hr => ⟨hr, rfl, [], by simp; rfl, by simp⟩

theorem bind {x : RunM (StateM (List Request)) α} {f : α → RunM (StateM (List Request)) β}
    (hx : Calm c x) (hf : ∀ a, Calm c (f a)) : Calm c (x >>= f) := fun r log hr => by
  rw [runM_run_bind]
  obtain ⟨hc, hs, new, hnew, hq⟩ := hx r log hr
  rcases hxr : ((x.run.run r).run log : Outcome α) with ⟨⟨e | a, r'⟩, log'⟩
  · rw [hxr] at hc hs hnew
    exact ⟨hc, hs, new, hnew, hq⟩
  · rw [hxr] at hc hs hnew
    dsimp only at hc hs hnew
    obtain ⟨hc', hs', new', hnew', hq'⟩ := hf a r' log' hc
    refine ⟨hc', hs'.trans hs, new ++ new', by rw [hnew', hnew, List.append_assoc], ?_⟩
    intro q hmem
    rcases List.mem_append.mp hmem with hmem | hmem
    · exact hq q hmem
    · exact hq' q hmem

theorem get_bind {f : Runner → RunM (StateM (List Request)) β}
    (hf : ∀ r, r.client = c → Calm c (f r)) : Calm c (MonadState.get >>= f) :=
  fun r log hr => by
    rw [runM_run_bind]
    exact hf r hr r log hr

theorem engine {x : ExceptT EngineError (StateM (List Request)) α} (hx : SendsOnly c.Quiet x) :
    Calm c (Runner.engine x) := fun r log hr => by
  obtain ⟨new, hnew, hq⟩ := hx log
  rw [engine_run]
  exact ⟨hr, rfl, new, hnew, hq⟩

theorem throw_bind (e : RunError) (f : α → RunM (StateM (List Request)) β) :
    Calm c (MonadExcept.throw e >>= f) := fun r log hr => by
  rw [throw_bind_run]
  exact ⟨hr, rfl, [], by simp, by simp⟩

theorem lift {y : StateM (List Request) α} (hy : Adds c.Quiet y) :
    Calm c (liftM y : RunM (StateM (List Request)) α) := fun r log hr => by
  obtain ⟨new, hnew, hq⟩ := hy log
  rw [liftM_run]
  exact ⟨hr, rfl, new, hnew, hq⟩

theorem onTable (step : TableM α) : Calm c (Runner.onTable step : RunM (StateM (List Request)) α) :=
  fun r log hr => by
    rw [onTable_run]
    exact ⟨hr, rfl, [], by simp, by simp⟩

end Calm

/-- Checks whose polls and cleanups send only requests with the property `P`. -/
def ChecksSend (P : Request → Prop) (checks : List (Check (ProbeM (StateM (List Request))))) :
    Prop :=
  ∀ ch ∈ checks, CheckSends P ch

theorem ChecksSend.append {P : Request → Prop} {checks : List (Check (ProbeM (StateM (List Request))))}
    {ch : Check (ProbeM (StateM (List Request)))} (hs : ChecksSend P checks) (h : CheckSends P ch) :
    ChecksSend P (checks ++ [ch]) :=
  List.forall_mem_append.mpr ⟨hs, List.forall_mem_singleton.mpr h⟩

/-- A poller whose checks and guard send only requests with the property `P`. -/
def PollerSends (P : Request → Prop) (p : Poller (ProbeM (StateM (List Request)))) : Prop :=
  ChecksSend P p.checks ∧ ∀ g ∈ p.guard, ProbeSends P g

theorem PollerSends.wait {P : Request → Prop} {p : Poller (ProbeM (StateM (List Request)))}
    (hp : PollerSends P p) (cancel : Cancellation) (memory : ProbeMemory) :
    Adds P ((p.wait cancel).run memory) :=
  wait_good ProbeSends.stable p (fun ch hch => (hp.1 ch hch).1) (fun ch hch => (hp.1 ch hch).2)
    hp.2 cancel memory

section Steps

variable (answer : Script) (world : World)

@[simp] theorem scriptedEnv_transport :
    (scriptedEnv answer world).transport = answer.transport := rfl

theorem scriptedEnv_now_adds {P : Request → Prop} : Adds P (scriptedEnv answer world).now :=
  Adds.get.bind fun _ => Adds.pure _

theorem scriptedEnv_token_adds {P : Request → Prop} : Adds P (scriptedEnv answer world).token :=
  Adds.get.bind fun _ => Adds.pure _

theorem scriptedEnv_connect_adds {P : Request → Prop} (host : String) (port : Nat) :
    Adds P ((scriptedEnv answer world).network.connect host port) :=
  Adds.get.bind fun _ => Adds.pure _

theorem scriptedEnv_fetch_adds {P : Request → Prop} (method url : String) (allow : Bool) :
    Adds P ((scriptedEnv answer world).network.fetch method url allow) :=
  Adds.get.bind fun _ => Adds.pure _

theorem token_bind_run {α : Type} (f : Cancellation → RunM (StateM (List Request)) α) (r : Runner)
    (log : List Request) :
    (((liftM (scriptedEnv answer world).token >>= f : RunM (StateM (List Request)) α).run.run r).run
        log : Outcome α) = ((f (world.token log)).run.run r).run log := by
  rw [runM_run_bind, liftM_run]
  rfl

theorem ensureImage_calm (c : Client) (image : String) :
    Calm c (Runner.ensureImage (scriptedEnv answer world) image) := by
  unfold Runner.ensureImage
  refine Calm.get_bind fun r hr => ?_
  subst hr
  refine Calm.bind (Calm.engine (hasImage_quiet answer r.client image)) fun present => ?_
  split
  · exact Calm.pure _
  · exact Calm.engine (pullImage_quiet answer r.client image none none)

/-- Every check of a wait's poller, and its guard, sends only quiet requests of the runner's
client: the checks its settings name probe the network, which sends nothing, or ask the engine
about the container. -/
theorem buildPoller_sends (r : Runner) (spec : RunSpec) (id : String) (wait : WaitSpec)
    (ports : List ResolvedPort) {poller : Poller (ProbeM (StateM (List Request)))}
    {memory : ProbeMemory}
    (h : Runner.buildPoller (scriptedEnv answer world) r spec id wait ports =
      .ok (poller, memory)) :
    PollerSends r.client.Quiet poller := by
  unfold Runner.buildPoller at h
  extract_lets invalid t timeout checks memory₀ afterTcp afterHttp at h
  -- each join point of the definition goes on from checks that send quiet requests to a poller
  -- whose checks do; the later ones are read inside the one that fixes the memory
  have hafterTcp : ∀ cs m p m', ChecksSend r.client.Quiet cs → afterTcp () cs m = .ok (p, m') →
      PollerSends r.client.Quiet p := by
    intro cs m p m' hcs h
    simp -zeta only [afterTcp] at h
    extract_lets done afterExit afterExec afterHealth at h
    have hdone : ∀ cs p m', ChecksSend r.client.Quiet cs → done () cs = .ok (p, m') →
        PollerSends r.client.Quiet p := by
      intro cs p m' hcs h
      cases h
      exact ⟨hcs, fun g hg => by cases hg; exact runningGuard_sends answer r.client id⟩
    have hexit : ∀ cs p m', ChecksSend r.client.Quiet cs → afterExit () cs = .ok (p, m') →
        PollerSends r.client.Quiet p := by
      intro cs p m' hcs h
      simp -zeta only [afterExit] at h
      split at h
      · exact hdone _ p m' (hcs.append (exitProbe_sends answer r.client id _)) h
      · exact hdone cs p m' hcs h
    have hexec : ∀ cs p m', ChecksSend r.client.Quiet cs → afterExec () cs = .ok (p, m') →
        PollerSends r.client.Quiet p := by
      intro cs p m' hcs h
      simp -zeta only [afterExec] at h
      split at h
      · split at h
        · cases h
        · exact hexit _ p m' (hcs.append (execProbe_sends answer r.client id _)) h
      · exact hexit cs p m' hcs h
    have hhealth : ∀ cs p m', ChecksSend r.client.Quiet cs → afterHealth () cs = .ok (p, m') →
        PollerSends r.client.Quiet p := by
      intro cs p m' hcs h
      simp -zeta only [afterHealth] at h
      split at h
      · exact hexec _ p m' (hcs.append (healthProbe_sends answer r.client id)) h
      · exact hexec cs p m' hcs h
    split at h
    · split at h
      · exact hhealth _ p m' (hcs.append (logProbe_sends answer r.client _)) h
      · cases h
    · exact hhealth cs p m' hcs h
  have hafterHttp : ∀ cs p m', ChecksSend r.client.Quiet cs → afterHttp () cs = .ok (p, m') →
      PollerSends r.client.Quiet p := by
    intro cs p m' hcs h
    simp -zeta only [afterHttp] at h
    split at h
    · exact hafterTcp _ _ p m' (hcs.append (tcpProbe_sends r.client _
        (scriptedEnv_connect_adds answer world) _)) h
    · exact hafterTcp cs _ p m' hcs h
  have hnone : ChecksSend r.client.Quiet [] := fun _ h => nomatch h
  split at h
  · split at h
    · exact hafterHttp _ _ _ (hnone.append (httpProbe_sends r.client _
        (scriptedEnv_fetch_adds answer world) _)) h
    · cases h
  · exact hafterHttp [] _ _ hnone h

/-- Bringing a created container up sends only quiet requests: the start, the inspection, and
what the wait's checks send. -/
theorem bringUp_calm (c : Client) (spec : RunSpec) (id : String) (mapper : PortMapper) :
    Calm c (Runner.bringUp (scriptedEnv answer world) spec id mapper) := by
  unfold Runner.bringUp
  refine Calm.get_bind fun r hr => ?_
  subst hr
  refine Calm.bind (Calm.engine (startContainer_quiet answer r.client id)) fun _ => ?_
  refine Calm.bind (Calm.engine (inspectContainer_quiet answer r.client id)) fun found => ?_
  split
  · refine Calm.bind (Calm.onTable _) fun ports => ?_
    dsimp only
    split
    · refine Calm.get_bind fun r' hr' => ?_
      split
      · rename_i built hbuilt
        rw [pure_bind]
        obtain ⟨poller, memory⟩ := built
        have hsends := buildPoller_sends answer world r' spec id _ ports hbuilt
        rw [hr'] at hsends
        refine Calm.bind (Calm.lift (scriptedEnv_token_adds answer world)) fun cancel => ?_
        refine Calm.bind (Calm.lift (hsends.wait cancel memory)) fun ended => ?_
        obtain ⟨run, _⟩ := ended
        dsimp only
        split
        · exact Calm.throw_bind _ _
        · exact Calm.pure _
      · exact Calm.throw_bind _ _
    · exact Calm.pure _
  · exact Calm.throw _

theorem discard_run (id : String) (r : Runner) (log : List Request) (h : r.client.shutDown = false) :
    (((Runner.discard (scriptedEnv answer world) id).run.run r).run log :
        Outcome Unit) = ((.ok (), r), log ++ [r.client.removeRequest id]) := by
  unfold Runner.discard
  rw [runM_run_bind, get_run]
  dsimp only
  rw [scriptedEnv_transport, runM_run_bind, liftM_run]
  dsimp only
  rw [removeContainer_sent answer r.client id log h]
  rfl

end Steps

/-- What one container's start leaves, from the runner `r` and the log `log`, when the engine
created the container `pending` before it: the client stays. A container it tracks came up, and
is the one container created, counting `pending`; nothing is removed. A start that fails tracks
nothing; the engine created at most one container, counting `pending`, and the start removed
it, once. -/
def StartedOne (answer : Script) (spec : RunSpec) (pending : Option String) (r : Runner)
    (log : List Request) : Outcome StartedContainer → Prop
  | ((result, r'), log') => r'.client = r.client ∧ ∃ new, log' = log ++ new ∧
    match result with
    | .ok container => container.specName = spec.name ∧ r'.started = r.started ++ [container] ∧
        pending.toList ++ createdIds answer r.client log new = [container.containerId] ∧
        deletions new = []
    | .error _ => r'.started = r.started ∧ ∃ failed : Option String,
        pending.toList ++ createdIds answer r.client log new = failed.toList ∧
        deletions new = failed.toList.map r.client.removeRequest

theorem StartedOne.prepend {answer : Script} {spec : RunSpec} {pending₀ pending : Option String}
    {r r' : Runner} {log pre : List Request} {o : Outcome StartedContainer}
    (hc : r'.client = r.client) (hs : r'.started = r.started)
    (hcreated : pending.toList = pending₀.toList ++ createdIds answer r.client log pre)
    (hdel : deletions pre = []) (h : StartedOne answer spec pending r' (log ++ pre) o) :
    StartedOne answer spec pending₀ r log o := by
  obtain ⟨⟨result, r''⟩, log''⟩ := o
  obtain ⟨hc', new, hnew, hresult⟩ := h
  refine ⟨hc'.trans hc, pre ++ new, by rw [hnew, List.append_assoc], ?_⟩
  rw [hc, hcreated, List.append_assoc, ← createdIds_append] at hresult
  rw [deletions_append, hdel, List.nil_append]
  cases result with
  | ok container => exact hs ▸ hresult
  | error e => exact hs ▸ hresult

/-- A start step, from every runner whose client is `c`. -/
def StartsOne (answer : Script) (c : Client) (spec : RunSpec) (pending : Option String)
    (x : RunM (StateM (List Request)) StartedContainer) : Prop :=
  ∀ r log, r.client = c → StartedOne answer spec pending r log ((x.run.run r).run log)

namespace StartsOne

variable {answer : Script} {c : Client} {spec : RunSpec} {α : Type}

theorem get_bind {pending : Option String}
    {f : Runner → RunM (StateM (List Request)) StartedContainer}
    (hf : ∀ r, r.client = c → StartsOne answer c spec pending (f r)) :
    StartsOne answer c spec pending (MonadState.get >>= f) := fun r log hr => by
  rw [runM_run_bind]
  exact hf r hr r log hr

theorem throw_bind (e : RunError) (f : α → RunM (StateM (List Request)) StartedContainer) :
    StartsOne answer c spec none (MonadExcept.throw e >>= f) := fun r log hr => by
  rw [throw_bind_run]
  exact ⟨rfl, [], by simp, rfl, none, by simp [createdIds], rfl⟩

theorem calm_bind {x : RunM (StateM (List Request)) α}
    {f : α → RunM (StateM (List Request)) StartedContainer} (hx : Calm c x)
    (hf : ∀ a, StartsOne answer c spec none (f a)) :
    StartsOne answer c spec none (x >>= f) := fun r log hr => by
  rw [runM_run_bind]
  obtain ⟨hc, hs, new, hnew, hq⟩ := hx r log hr
  have hquiet : createdIds answer r.client log new = [] ∧ deletions new = [] :=
    createdIds_quiet answer r.client (hr ▸ hq)
  rcases hxr : ((x.run.run r).run log : Outcome α) with ⟨⟨e | a, r'⟩, log'⟩
  · rw [hxr] at hc hs hnew
    exact ⟨hc.trans hr.symm, new, hnew, hs, none, by simpa using hquiet.1, hquiet.2⟩
  · rw [hxr] at hc hs hnew
    dsimp only at hc hs hnew ⊢
    refine StartedOne.prepend (hc.trans hr.symm) hs (by rw [hquiet.1, List.append_nil]) hquiet.2 ?_
    rw [← hnew]
    exact hf a r' log' hc

theorem exceptLift_bind {pending : Option String} {x : RunM (StateM (List Request)) α}
    {f : Except RunError α → RunM (StateM (List Request)) StartedContainer} (hx : Calm c x)
    (hf : ∀ a, StartsOne answer c spec pending (f a)) :
    StartsOne answer c spec pending (ExceptT.lift x.run >>= f) := fun r log hr => by
  rw [runM_run_bind, exceptLift_run]
  obtain ⟨hc, hs, new, hnew, hq⟩ := hx r log hr
  have hquiet : createdIds answer r.client log new = [] ∧ deletions new = [] :=
    createdIds_quiet answer r.client (hr ▸ hq)
  dsimp only
  refine StartedOne.prepend (hc.trans hr.symm) hs (by rw [hquiet.1, List.append_nil]) hquiet.2 ?_
  rw [← hnew]
  exact hf _ _ _ hc

end StartsOne

section Create

variable (answer : Script) (world : World)
  {c : Client} {spec : RunSpec}

@[simp] theorem deletions_createRequestFor (body : CreateRequest) (name : Option String) :
    deletions [c.createRequestFor body name] = [] := rfl

@[simp] theorem deletions_removeRequest (id : String) :
    deletions [c.removeRequest id] = [c.removeRequest id] := rfl

/-- The create sends its one request; when the engine gave an id, what follows starts with that
container created. -/
theorem StartsOne.create_bind {body : CreateRequest} {name : Option String}
    {k : String → RunM (StateM (List Request)) StartedContainer}
    (hk : c.shutDown = false → ∀ id, StartsOne answer c spec (some id) (k id)) :
    StartsOne answer c spec none
      (Runner.engine (c.createContainer answer.transport body name) >>= k) := fun r log hr => by
  rw [runM_run_bind, engine_run]
  cases hdown : c.shutDown with
  | true =>
    rw [createContainer_run, request_shutDown answer.transport c _ _ _ _ log hdown]
    exact ⟨rfl, [], by simp, rfl, none, by simp [createdIds], rfl⟩
  | false =>
    have hsent := createContainer_sent answer c body name log hdown
    rcases hcreate : (c.createContainer answer.transport body name).run.run log with
      ⟨e | id, log₁⟩
    · rw [hcreate] at hsent
      have hnone : createdId (c.createRequestFor body name)
          (answer log (c.createRequestFor body name)) = none := by
        cases hid : createdId _ _ with
        | none => rfl
        | some id =>
          have hok := (createContainer_eq_ok_iff answer c body name log hdown id).mpr hid
          rw [hcreate] at hok
          cases hok
      exact ⟨rfl, [c.createRequestFor body name], hsent, rfl, none, by simp [hr, hnone], by simp⟩
    · rw [hcreate] at hsent
      have hid := (createContainer_eq_ok_iff answer c body name log hdown id).mp (by rw [hcreate])
      have hrest := hk hdown id r log₁ hr
      dsimp only at hsent
      subst hsent
      refine StartedOne.prepend rfl rfl ?_ ?_ hrest
      · simp [hr, hid]
      · simp

theorem StartsOne.discard_throw (hdown : c.shutDown = false) (id : String) (e : RunError) :
    StartsOne answer c spec (some id)
      (Runner.discard (scriptedEnv answer world) id >>= fun _ => throw e) :=
  fun r log hr => by
    rw [runM_run_bind, discard_run answer world id r log (hr ▸ hdown)]
    exact ⟨rfl, [r.client.removeRequest id], rfl, rfl, some id, by simp, by simp⟩

theorem StartsOne.track {id : String} (container : StartedContainer)
    (hname : container.specName = spec.name) (hid : container.containerId = id) :
    StartsOne answer c spec (some id)
      (modify (fun r => { r with started := r.started ++ [container] }) >>= fun _ =>
        pure container) := fun r log hr => by
  rw [runM_run_bind, modify_run]
  exact ⟨rfl, [], by simp, hname, rfl, by simp [hid, createdIds], rfl⟩

/-- One container's start: its create is the one create request it sends; the container is
tracked exactly when it came up, and removed, once, when it was created and did not. -/
theorem startOne_startsOne (c : Client) (spec : RunSpec) (known references : KeyMap String)
    (existing : List String) :
    StartsOne answer c spec none
      (Runner.startOne (scriptedEnv answer world) spec known references existing) := by
  unfold Runner.startOne
  refine StartsOne.get_bind fun r _ => ?_
  refine StartsOne.calm_bind (Calm.lift (scriptedEnv_now_adds answer world))
    fun now => ?_
  dsimp only
  split
  · rw [pure_bind]
    refine StartsOne.calm_bind (Calm.onTable _) fun mapper => ?_
    refine StartsOne.calm_bind (ensureImage_calm answer world c _) fun _ => ?_
    refine StartsOne.get_bind fun r₁ hr₁ => ?_
    subst hr₁
    refine StartsOne.create_bind answer fun hdown id => ?_
    refine StartsOne.exceptLift_bind (bringUp_calm answer world _ spec id _)
      fun brought => ?_
    -- the bring-up either failed, and the container is removed, or came up and is tracked
    split
    · exact StartsOne.discard_throw answer world hdown id _
    · exact StartsOne.track answer _ rfl rfl
  · exact StartsOne.throw_bind _ _

end Create

/-- What one turn of a start loop leaves: what the start of the container `spec` leaves, and,
when it came up, the loop goes on with it added to what the loop gives back. -/
def TurnStarts {σ : Type} (answer : Script) (spec : RunSpec) (tracked : σ → List StartedContainer)
    (s : σ) (r : Runner) (log : List Request) :
    (Except RunError (ForInStep σ) × Runner) × List Request → Prop
  | ((.ok (.yield s'), r'), log') => ∃ container, tracked s' = tracked s ++ [container] ∧
      StartedOne answer spec none r log ((.ok container, r'), log')
  | ((.ok (.done _), _), _) => False
  | ((.error e, r'), log') => StartedOne answer spec none r log ((.error e, r'), log')

namespace TurnStarts

variable {σ : Type} {answer : Script} {spec : RunSpec} {tracked : σ → List StartedContainer}
  {s : σ}

theorem throw_bind {α : Type} (e : RunError) (f : α → RunM (StateM (List Request)) (ForInStep σ))
    (r : Runner) (log : List Request) :
    TurnStarts answer spec tracked s r log (((MonadExcept.throw e >>= f).run.run r).run log) := by
  rw [throw_bind_run]
  exact ⟨rfl, [], by simp, rfl, none, by simp [createdIds], rfl⟩

theorem bind_yield {c : Client} {x : RunM (StateM (List Request)) StartedContainer}
    {k : StartedContainer → RunM (StateM (List Request)) (ForInStep σ)}
    (hx : StartsOne answer c spec none x)
    (hk : ∀ container r log, ∃ s', ((k container).run.run r).run log = ((.ok (.yield s'), r), log) ∧
      tracked s' = tracked s ++ [container])
    (r : Runner) (log : List Request) (hr : r.client = c) :
    TurnStarts answer spec tracked s r log (((x >>= k).run.run r).run log) := by
  rw [runM_run_bind]
  have hone := hx r log hr
  rcases hrun : (x.run.run r).run log with ⟨⟨e | container, r'⟩, log'⟩
  · rw [hrun] at hone
    exact hone
  · rw [hrun] at hone
    obtain ⟨s', hk', htracked⟩ := hk container r' log'
    dsimp only
    rw [hk']
    exact ⟨container, htracked, hone⟩

end TurnStarts

/-- What starting the containers `specs` in turn leaves, from the runner `r` and the log `log`,
when the run gives back `given` of its result after `prior`: the client stays; the containers
`done` came up, each from its spec in turn, and are tracked after those tracked before; the
engine created them and after them at most one container, `failed`, which was removed, once,
and nothing else was removed. A run that succeeds started every spec and gives back `done`;
one that fails stopped before the last. -/
def StartedAll {β : Type} (answer : Script) (specs : List RunSpec)
    (given : β → List StartedContainer) (prior : List StartedContainer) (r : Runner)
    (log : List Request) : (Except RunError β × Runner) × List Request → Prop
  | ((result, r'), log') => r'.client = r.client ∧
    ∃ (done : List StartedContainer) (failed : Option String) (new : List Request),
      log' = log ++ new ∧ r'.started = r.started ++ done ∧
      done.map (·.specName) = (specs.take done.length).map (·.name) ∧
      createdIds answer r.client log new = done.map (·.containerId) ++ failed.toList ∧
      deletions new = failed.toList.map r.client.removeRequest ∧
      match result with
      | .ok b => given b = prior ++ done ∧ done.length = specs.length ∧ failed = none
      | .error _ => done.length < specs.length

theorem StartedAll.nil {β : Type} (answer : Script) (given : β → List StartedContainer) (b : β)
    (r : Runner) (log : List Request) :
    StartedAll answer [] given (given b) r log ((.ok b, r), log) :=
  ⟨rfl, [], none, [], by simp, by simp, rfl, by simp [createdIds], rfl, by simp⟩

theorem StartedAll.of_failed {β : Type} {answer : Script} {spec : RunSpec} {specs : List RunSpec}
    {given : β → List StartedContainer} {prior : List StartedContainer} {r r' : Runner}
    {log log' : List Request} {e : RunError}
    (h : StartedOne answer spec none r log ((.error e, r'), log')) :
    StartedAll answer (spec :: specs) given prior r log ((.error e, r'), log') := by
  obtain ⟨hc, new, hnew, hs, failed, hcreated, hdel⟩ := h
  exact ⟨hc, [], failed, new, hnew, by simp [hs], by simp, by simpa using hcreated, hdel, by simp⟩

/-- A container that came up, followed by the rest of the sequence. -/
theorem StartedAll.cons {β : Type} {answer : Script} {spec : RunSpec} {specs : List RunSpec}
    {given : β → List StartedContainer} {prior : List StartedContainer}
    {container : StartedContainer} {r r' : Runner} {log log' : List Request}
    {o : (Except RunError β × Runner) × List Request}
    (hone : StartedOne answer spec none r log ((.ok container, r'), log'))
    (hrest : StartedAll answer specs given (prior ++ [container]) r' log' o) :
    StartedAll answer (spec :: specs) given prior r log o := by
  obtain ⟨hc, new, hnew, hname, hs, hcreated, hdel⟩ := hone
  obtain ⟨⟨result, r''⟩, log''⟩ := o
  obtain ⟨hc', done, failed, new', hnew', hs', hnames, hcreated', hdel', hresult⟩ := hrest
  refine ⟨hc'.trans hc, container :: done, failed, new ++ new', ?_, ?_, ?_, ?_, ?_, ?_⟩
  · rw [hnew', hnew, List.append_assoc]
  · rw [hs', hs, List.append_assoc, List.singleton_append]
  · simp [hname, hnames]
  · rw [hc] at hcreated'
    rw [createdIds_append, ← hnew, hcreated']
    simpa using congrArg (· ++ (done.map (·.containerId) ++ failed.toList)) hcreated
  · rw [deletions_append, hdel, hdel', hc]
    rfl
  · cases result with
    | ok b =>
      obtain ⟨hgiven, hlen, hfailed⟩ := hresult
      exact ⟨by simp [hgiven], by simp [hlen], hfailed⟩
    | error e => simpa using hresult

/-- A start loop whose every turn starts its container, from every runner whose client is `c`,
starts the containers in turn. The induction is on the containers left to start. -/
theorem forIn_startedAll {σ : Type} {answer : Script} {c : Client}
    (tracked : σ → List StartedContainer)
    (body : RunSpec → σ → RunM (StateM (List Request)) (ForInStep σ))
    (hbody : ∀ spec s r log, r.client = c →
      TurnStarts answer spec tracked s r log (((body spec s).run.run r).run log)) :
    ∀ (specs : List RunSpec) (s : σ) (r : Runner) (log : List Request), r.client = c →
      StartedAll answer specs tracked (tracked s) r log (((forIn specs s body).run.run r).run log) := by
  intro specs
  induction specs with
  | nil => exact fun s r log _ => StartedAll.nil answer tracked s r log
  | cons spec specs ih =>
    intro s r log hr
    rw [List.forIn_cons, runM_run_bind]
    have hturn := hbody spec s r log hr
    rcases hrun : (((body spec s).run.run r).run log) with ⟨⟨e | step, r'⟩, log'⟩
    · rw [hrun] at hturn
      exact StartedAll.of_failed hturn
    · rw [hrun] at hturn
      cases step with
      | done b => exact hturn.elim
      | yield s' =>
        obtain ⟨container, htracked, hone⟩ := hturn
        refine StartedAll.cons hone ?_
        rw [← htracked]
        exact ih s' r' log' (hone.1.trans hr)

theorem StartedAll.bind_pure {β γ : Type} {answer : Script} {specs : List RunSpec}
    {x : RunM (StateM (List Request)) β} {f : β → γ} {given : γ → List StartedContainer}
    {prior : List StartedContainer} {r : Runner} {log : List Request}
    (h : StartedAll answer specs (fun b => given (f b)) prior r log ((x.run.run r).run log)) :
    StartedAll answer specs given prior r log
      (((x >>= fun b => pure (f b)).run.run r).run log) := by
  rw [runM_run_bind]
  rcases hx : ((x.run.run r).run log : (Except RunError β × Runner) × List Request) with
    ⟨⟨e | b, r'⟩, log'⟩ <;> rw [hx] at h <;> exact h

section Sequence

variable (answer : Script) (world : World)

/-- The start sequence tracks exactly the containers that came up and removes those the engine
created that did not. It reads the engine's container names, which creates and removes nothing,
and stops there when they cannot be read or no start order exists. Otherwise it starts the specs
one after another in a start order of exactly the specs given, and stops at the first that
fails: the containers that came up are tracked, in that order, after those tracked before; the
engine created them and at most one more, which was removed, once; and nothing else was created
or removed. A run whose token has fired by its first container starts nothing. -/
theorem startAll_tracks_what_came_up (specs : List RunSpec) (known : KeyMap String)
    (r : Runner) (log : List Request) :
    let run := ((Runner.startAll (scriptedEnv answer world) specs
      known).run.run r).run log
    SendsOnly r.client.Quiet (r.client.containerNames answer.transport) ∧
    match (r.client.containerNames answer.transport).run.run log with
    | (.error e, log₁) => run = ((.error (.engine e), r), log₁)
    | (.ok names, log₁) =>
      match order names specs with
      | .error e => run = ((.error (.order e), r), log₁)
      | .ok ordered =>
        ordered.Perm specs ∧ IsStartOrder names ordered ∧ StartedAll answer ordered id [] r log₁ run ∧
          (world.token log₁ = .before →
            run = ((if ordered = [] then .ok [] else .error .cancelled, r), log₁)) := by
  intro run
  refine ⟨containerNames_quiet answer r.client, ?_⟩
  unfold run Runner.startAll
  rw [runM_run_bind, get_run]
  dsimp only
  rw [runM_run_bind, engine_run, scriptedEnv_transport]
  rcases hnames : (r.client.containerNames answer.transport).run.run log with ⟨e | names, log₁⟩
  · rfl
  dsimp only [Except.mapError]
  rcases hord : order names specs with e | ordered
  · rfl
  dsimp only
  obtain ⟨hperm, hvalid⟩ := order_sound hord
  refine ⟨hperm, hvalid, ?_, ?_⟩
  · rw [pure_bind]
    refine StartedAll.bind_pure (forIn_startedAll
      (fun s : List String × KeyMap String × List StartedContainer => s.2.2) _ ?_ ordered _ r log₁ rfl)
    -- one turn: the cancellation check, one container's start, and the names it is known by
    intro spec s r₀ log₀ hr₀
    rw [token_bind_run]
    split
    · exact TurnStarts.throw_bind _ _ r₀ log₀
    · refine TurnStarts.bind_yield
        (startOne_startsOne answer world r.client spec known s.2.1 s.1)
        (fun container r' log' => ?_) r₀ log₀ hr₀
      split <;> split <;> exact ⟨_, rfl, rfl⟩
  · -- a cancelled run fails at its first turn, before the first container's start
    intro hcancel
    cases ordered with
    | nil => rfl
    | cons spec rest =>
      rw [pure_bind, List.forIn_cons, runM_run_bind, runM_run_bind, token_bind_run, hcancel]
      rfl

end Sequence

end Mooring.Run

import Mooring.Wait.Poller
import Mooring.Wait.Checks
import Mooring.Engine.Client
import Mooring.Text.Regex
namespace Mooring.Wait

open Mooring.Engine Mooring.Text

/-- The network, as readiness probes see it. -/
structure Network (m : Type → Type) where
  /-- Whether a connection to a port of a host is accepted. -/
  connect : String → Nat → m Bool
  /-- The status of the answer to an HTTP request with a method to an address, if one came;
  the flag lets any certificate and host name pass. -/
  fetch : String → String → Bool → m (Option Nat)

/-- What the checks of one wait remember between polls: there is at most one check of each
kind. -/
structure ProbeMemory where
  /-- The ports of the TCP check that did not yet accept a connection. -/
  pendingPorts : List Nat
  /-- Whether the health check has yet to see the container. -/
  firstHealth : Bool
  /-- Whether the log check found its pattern, once it follows the log. -/
  logFound : Option Bool

abbrev ProbeM (m : Type → Type) := StateT ProbeMemory m

/-- Ready once the container's output matches a pattern. -/
structure LogCheck where
  containerId : String
  pattern : String
  regex : Regex.Expr

/-- Compiles a log pattern whose program takes `size pattern` bytes. -/
def LogCheck.new (size : String → Nat) (containerId pattern : String) : Except WaitError LogCheck :=
  match Regex.compile size pattern with
  | .ok r => .ok ⟨containerId, pattern, r⟩
  | .error e => .error (.invalidCheck ("invalid log pattern " ++ quote pattern ++ ": " ++
      e.render pattern))
where
  quote (s : String) : String :=
    String.singleton (Char.ofNat 0x27) ++ s ++ String.singleton (Char.ofNat 0x27)

def LogCheck.label (c : LogCheck) : String := "on log out " ++ LogCheck.new.quote c.pattern

/-- The matcher of a log check between lines: the output so far, when the whole of it is
matched, and whether the pattern was found. -/
structure LogMatcher where
  buffer : Option String
  found : Bool

/-- The matcher a log check starts from: it keeps the output seen so far when its pattern lets `.`
match line feeds from its start. -/
def LogCheck.start (c : LogCheck) : LogMatcher :=
  ⟨if Regex.opensDotAll c.pattern then some "" else none, false⟩

/-- Matches one more line; asks to stop once the pattern is found. -/
def LogCheck.feed (c : LogCheck) (s : LogMatcher) (line : LogLine) : LogMatcher × LogControl :=
  let (buffer, text) := match s.buffer with
    | some b => (some (b ++ line.text ++ "\n"), b ++ line.text ++ "\n")
    | none => (none, line.text)
  if c.regex.isMatch text then (⟨buffer, true⟩, .stop) else (⟨buffer, false⟩, .continue)

def healthLabel (containerId : String) : String := "on healthcheck " ++ LogCheck.new.quote containerId

def execLabel (cmd : List String) : String := "on exec " ++ LogCheck.new.quote (" ".intercalate cmd)

def exitLabel (code : Int) : String := "on exit code " ++ toString code

section

variable {m : Type → Type} [Monad m]

/-- A check whose polls answer at once and that holds nothing to clean up. -/
def Check.instant {n : Type → Type} [Monad n] (label : String) (expectsExit : Bool)
    (poll : n (Except WaitError Bool)) : Check n :=
  ⟨label, expectsExit, (Timed.mk · 0) <$> poll, pure ()⟩

def call {α : Type} (x : ExceptT EngineError m α) : ProbeM m (Except EngineError α) :=
  StateT.lift x.run

def HttpCheck.probe (net : Network m) (c : HttpCheck) : Check (ProbeM m) :=
  Check.instant c.label false do
    match ← StateT.lift (net.fetch c.method c.url c.allowAllHosts) with
    | none => return .ok false
    | some 501 => return .error (.checkFailed c.label
        ("method " ++ c.method ++ " is not supported by the server"))
    | some status => return .ok (c.status.contains status)

def TcpCheck.probe (net : Network m) (c : TcpCheck) : Check (ProbeM m) :=
  Check.instant c.label false do
    let memory ← get
    let still ← StateT.lift (memory.pendingPorts.filterM fun port => do
      return !(← net.connect c.host port))
    set { memory with pendingPorts := still }
    return .ok still.isEmpty

/-- The log check: its first poll starts following the log and is not yet ready. -/
def LogCheck.probe (t : Transport m) (client : Client) (c : LogCheck) : Check (ProbeM m) :=
  Check.instant c.label false do
    match (← get).logFound with
    | some found => return .ok found
    | none =>
      match ← call (client.followLogs t c.containerId c.start c.feed) with
      | .error e => return .error (.engine e)
      | .ok (_, matcher) =>
        modify fun memory => { memory with logFound := some matcher.found }
        return .ok false

def healthProbe (t : Transport m) (client : Client) (containerId : String) : Check (ProbeM m) :=
  Check.instant (healthLabel containerId) false do
    match ← call (client.inspectContainer t containerId) with
    | .error _ | .ok none => return .ok false
    | .ok (some details) =>
      let memory ← get
      set { memory with firstHealth := false }
      if memory.firstHealth && !details.hasHealthCheck then
        return .error (.checkFailed (healthLabel containerId)
          ("Can not wait for healthy state of " ++ containerId ++ ". No HEALTHCHECK configured."))
      return .ok (details.healthStatus? == some "healthy")

def execProbe (t : Transport m) (client : Client) (containerId : String) (cmd : List String) :
    Check (ProbeM m) :=
  Check.instant (execLabel cmd) false do
    let run : ExceptT EngineError m (Option Int) := do
      let execId ← client.createExec t containerId cmd
      let _ ← client.startExec t execId
      return (← client.inspectExec t execId).exitCode
    match ← call run with
    | .ok code => return .ok (code == some 0)
    | .error _ => return .ok false

def exitProbe (t : Transport m) (client : Client) (containerId : String) (code : Int) :
    Check (ProbeM m) :=
  Check.instant (exitLabel code) true do
    match ← call (client.inspectContainer t containerId) with
    | .error e => return .error (.engine e)
    | .ok details => return .ok ((details.bind (·.exitCode?)) == some code)

/-- Fails once the container no longer runs, after reading its log. -/
def runningGuard (t : Transport m) (client : Client) (containerId : String) :
    ProbeM m (Except WaitError Unit) := do
  match ← call (client.inspectContainer t containerId) with
  | .error e => return .error (.engine e)
  | .ok (some details) =>
    if details.isRunning then return .ok ()
    let _ ← call (client.logs t containerId)
    return .error (.notRunning containerId details.exitCode?)
  | .ok none =>
    let _ ← call (client.logs t containerId)
    return .error (.notRunning containerId none)

end

end Mooring.Wait

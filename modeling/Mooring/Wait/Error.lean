import Mooring.Engine.Error
namespace Mooring.Wait

open Mooring.Engine

/-- Why a readiness wait ended without success. -/
inductive WaitError where
  /-- The budget ran out; the labels of the checks that never passed. -/
  | timeout (elapsedMillis : Nat) (pending : String)
  | cancelled (elapsedMillis : Nat)
  /-- The container stopped while it was expected to become ready. -/
  | notRunning (container : String) (exitCode : Option Int)
  /-- A check met a condition that can never become ready. -/
  | checkFailed (check reason : String)
  /-- A check was configured with unusable values. -/
  | invalidCheck (reason : String)
  | engine (e : EngineError)
  deriving DecidableEq

namespace WaitError

def message : WaitError → String
  | .timeout elapsed pending =>
    "Timed out after " ++ toString elapsed ++ " ms waiting for " ++ pending
  | .cancelled elapsed => "Wait cancelled after " ++ toString elapsed ++ " ms"
  | .notRunning container exitCode =>
    "Container " ++ container ++ " stopped while waiting" ++
      ((exitCode.map fun c => " (exit code " ++ toString c ++ ")").getD "")
  | .checkFailed check reason => "Readiness check " ++ check ++ " failed: " ++ reason
  | .invalidCheck reason => "Invalid readiness check: " ++ reason
  | .engine e => e.message

def kind : WaitError → String
  | .timeout .. => "Timeout"
  | .cancelled .. => "Cancelled"
  | .notRunning .. => "NotRunning"
  | .checkFailed .. => "CheckFailed"
  | .invalidCheck .. => "InvalidCheck"
  | .engine e => "EngineError." ++ e.kind

def isTimeout : WaitError → Bool
  | .timeout .. => true
  | _ => false

/-- A timeout naming other pending checks; any other error as it is. -/
def withPending : WaitError → String → WaitError
  | .timeout elapsed _, pending => .timeout elapsed pending
  | e, _ => e

end WaitError

end Mooring.Wait

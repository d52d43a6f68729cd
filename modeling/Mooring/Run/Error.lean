import Mooring.Wait.Error
import Mooring.Ports.Spec
import Mooring.Naming
import Mooring.Order.Resolve
namespace Mooring.Run

open Mooring.Engine Mooring.Ports Mooring.Naming Mooring.Order Mooring.Wait

/-- Why a start sequence stopped. -/
inductive RunError where
  | engine (e : EngineError)
  | ports (e : PortSpecError)
  | naming (e : NamingError)
  | order (e : OrderError)
  /-- A readiness check could not be built from the plan. -/
  | invalidWait (container reason : String)
  /-- The container did not become ready. -/
  | notReady (container : String) (e : WaitError)
  /-- The engine lost track of a container right after starting it. -/
  | vanished (container : String)
  | cancelled

namespace RunError

/-- Wrapped errors read as they are. -/
def message : RunError → String
  | .engine e => e.message
  | .ports e => e.message
  | .naming e => e.message
  | .order e => e.message
  | .invalidWait container reason =>
    "Invalid wait configuration for " ++ quoted container ++ ": " ++ reason
  | .notReady container e => "Container " ++ quoted container ++ " did not become ready: " ++ e.message
  | .vanished container => "Container " ++ quoted container ++ " disappeared after start"
  | .cancelled => "Start sequence cancelled"
where
  quoted (s : String) : String :=
    String.singleton (Char.ofNat 0x27) ++ s ++ String.singleton (Char.ofNat 0x27)

/-- The kind of error, with the kind of a wrapped error after a dot. -/
def kind : RunError → String
  | .engine e => "EngineError." ++ e.kind
  | .ports e => "PortSpecError." ++ e.kind
  | .naming e => "NamingError." ++ e.kind
  | .order e => "OrderError." ++ e.kind
  | .invalidWait .. => "InvalidWait"
  | .notReady .. => "NotReady"
  | .vanished .. => "Vanished"
  | .cancelled => "Cancelled"

end RunError

end Mooring.Run

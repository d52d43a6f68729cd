import Mooring.Order.Cycle
import Mooring.Text.Pieces
namespace Mooring.Order

open Mooring.Text

/-- Why no start order exists. -/
inductive OrderError where
  /-- Blocked containers that need each other, each the dependency of the one before it. -/
  | cyclicDependency (members : List String)
  /-- Container and dependency pairs that name nothing known. -/
  | unresolvedDependencies (missing : List (String × String))
  deriving DecidableEq

namespace OrderError

def message : OrderError → String
  | .cyclicDependency members =>
    "Cyclic dependency between containers: " ++ joinStrings " -> " members
  | .unresolvedDependencies missing =>
    "Cannot resolve start order: " ++
      joinStrings ", " (missing.map fun (n, d) => n ++ " depends on unknown '" ++ d ++ "'")

def kind : OrderError → String
  | .cyclicDependency _ => "CyclicDependency"
  | .unresolvedDependencies _ => "UnresolvedDependencies"

end OrderError

/-- Something with a name, an optional alias and the names it depends on. -/
class Dependent (α : Type) where
  name : α → String
  aliasName : α → Option String
  dependencies : α → List String

/-- A container to order, by its names and dependencies alone. -/
structure ContainerSpec where
  name : String
  aliasName : Option String
  dependencies : List String

instance : Dependent ContainerSpec := ⟨ContainerSpec.name, ContainerSpec.aliasName,
  ContainerSpec.dependencies⟩

variable {α : Type} [Dependent α]

def knownAs (x : α) : List String := Dependent.name x :: (Dependent.aliasName x).toList

def isReady (existing started : List String) (x : α) : Bool :=
  (Dependent.dependencies x).all fun d => started.contains d || existing.contains d

/-- One pass: starts, in order, each container that is ready, counting the ones started before
it in the pass. Gives the started ones, the blocked ones and the names known afterwards. -/
def pass (existing : List String) : List α → List String → List α × List α × List String
  | [], started => ([], [], started)
  | x :: xs, started =>
    if isReady existing started x then
      let (placed, blocked, started) := pass existing xs (started ++ knownAs x)
      (x :: placed, blocked, started)
    else
      let (placed, blocked, started) := pass existing xs started
      (placed, x :: blocked, started)

/-- The last blocked container known by a name. -/
def indexOf? (blocked : List α) (key : String) : Option Nat :=
  ((List.range blocked.length).zip blocked).foldl
    (fun acc (i, x) => if (knownAs x).contains key then some i else acc) none

/-- Why the blocked containers cannot start. -/
def explain (existing : List String) (blocked : List α) (started : List String) : OrderError :=
  let edges := blocked.map fun x => (Dependent.dependencies x).filterMap (indexOf? blocked)
  match findCycle edges with
  | some cycle => .cyclicDependency (cycle.filterMap fun i => blocked[i]?.map Dependent.name)
  | none =>
    .unresolvedDependencies <| blocked.flatMap fun x =>
      ((Dependent.dependencies x).filter fun d =>
        !started.contains d && !existing.contains d && (indexOf? blocked d).isNone).map
          fun d => (Dependent.name x, d)

/-- Repeats passes until all are placed or a pass places none. -/
def passes (existing : List String) : Nat → List α → List String → List α →
    Except OrderError (List α)
  | _, [], _, ordered => .ok ordered
  | 0, remaining, started, _ => .error (explain existing remaining started)
  | fuel + 1, remaining, started, ordered =>
    let (placed, blocked, started) := pass existing remaining started
    if placed.isEmpty then .error (explain existing blocked started)
    else passes existing fuel blocked started (ordered ++ placed)

/-- Orders containers so that each starts after its dependencies. -/
def order (existing : List String) (specs : List α) : Except OrderError (List α) :=
  let free := specs.filter fun x => (Dependent.dependencies x).isEmpty
  let rest := specs.filter fun x => !(Dependent.dependencies x).isEmpty
  passes existing (rest.length + 1) rest (free.flatMap knownAs) free

end Mooring.Order

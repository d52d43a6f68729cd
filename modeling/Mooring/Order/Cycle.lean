namespace Mooring.Order

/-- How far the search has come with a node. -/
inductive Mark where
  | fresh
  | active
  | done
  deriving DecidableEq, Inhabited

/-- The search state: a mark per node, and the path of active nodes from the root. -/
structure Search where
  marks : Array Mark
  path : List Nat

def successors (edges : List (List Nat)) (node : Nat) : List Nat := edges.getD node []

def Search.mark (s : Search) (node : Nat) : Mark := s.marks.getD node .done

mutual

/-- Enters a node: marks it active, explores its successors, and finishes it unless a cycle is
found. `fuel` bounds the depth and suffices when it exceeds the number of nodes. -/
def visit (edges : List (List Nat)) (fuel : Nat) (node : Nat) (s : Search) :
    Option (List Nat) × Search :=
  match fuel with
  | 0 => (Option.none, s)
  | fuel + 1 =>
    let s : Search := ⟨s.marks.set! node .active, s.path ++ [node]⟩
    match explore edges fuel (successors edges node) s with
    | (some cycle, s) => (some cycle, s)
    | (Option.none, s) => (Option.none, ⟨s.marks.set! node .done, s.path.dropLast⟩)
  termination_by (fuel, 0)

/-- Follows the edges to `nexts` in order. -/
def explore (edges : List (List Nat)) (fuel : Nat) (nexts : List Nat) (s : Search) :
    Option (List Nat) × Search :=
  match nexts with
  | [] => (Option.none, s)
  | next :: rest =>
    match s.mark next with
    | .active => (some (s.path.drop (s.path.idxOf next)), s)
    | .fresh =>
      match visit edges fuel next s with
      | (some cycle, s) => (some cycle, s)
      | (Option.none, s) => explore edges fuel rest s
    | .done => explore edges fuel rest s
  termination_by (fuel, nexts.length + 1)

end

/-- Starts the search from each node in `roots` that is still fresh. -/
def searchFrom (edges : List (List Nat)) (fuel : Nat) : List Nat → Search → Option (List Nat)
  | [] , _ => Option.none
  | root :: roots, s =>
    if s.mark root = .fresh then
      match visit edges fuel root s with
      | (some cycle, _) => some cycle
      | (Option.none, s) => searchFrom edges fuel roots s
    else searchFrom edges fuel roots s

/-- A cycle of the graph, as the list of its nodes in edge order, if the search meets one. -/
def findCycle (edges : List (List Nat)) : Option (List Nat) :=
  searchFrom edges (edges.length + 1) (List.range edges.length)
    ⟨Array.replicate edges.length .fresh, []⟩

end Mooring.Order

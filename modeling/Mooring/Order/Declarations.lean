import Mooring.Text.Pieces
namespace Mooring.Order

open Mooring.Text

/-- The network a container joins. -/
inductive NetworkMode where
  | default
  | bridge
  | host
  | none
  | container (name : String)
  | custom (name : String)
  deriving DecidableEq, Inhabited

namespace NetworkMode

/-- Reads a mode: empty or `default`, the three engine modes, `container:` and a name, or any
other text as the name of a user-defined network. -/
def parse (mode : String) : NetworkMode :=
  match mode with
  | "" | "default" => .default
  | "bridge" => .bridge
  | "host" => .host
  | "none" => .none
  | other =>
    match stripPrefix? "container:".toList other.toList with
    | some name => .container (String.ofList name)
    | Option.none => .custom other

/-- The text of a mode, as `parse` reads it back. -/
def toText : NetworkMode → String
  | .default => "default"
  | .bridge => "bridge"
  | .host => "host"
  | .none => "none"
  | .container name => "container:" ++ name
  | .custom name => name

def isCustom : NetworkMode → Bool
  | .custom _ => true
  | _ => false

/-- The container whose network is joined. -/
def containerAlias : NetworkMode → Option String
  | .container name => some name
  | _ => Option.none

/-- The mode to ask the engine for; the default asks for none. -/
def engineMode : NetworkMode → Option String
  | .default => Option.none
  | m => some m.toText

/-- The kind of mode, as a word. -/
def kind : NetworkMode → String
  | .default => "default"
  | .bridge => "bridge"
  | .host => "host"
  | .none => "none"
  | .container _ => "container"
  | .custom _ => "custom"

end NetworkMode

/-- The container part of a link `name:alias`: the text before its last `:`. -/
def linkTarget (link : String) : String :=
  match rsplitOnceChar ':' link.toList with
  | some (name, _) => String.ofList name
  | Option.none => link

/-- The alias part of a link: the text after its last `:`, or the whole link. -/
def linkAlias (link : String) : String :=
  match rsplitOnceChar ':' link.toList with
  | some (_, a) => String.ofList a
  | Option.none => link

/-- What a container declares about its neighbours. -/
structure Declarations where
  volumesFrom : List String
  links : List String
  network : NetworkMode
  dependsOn : List String

/-- Appends names that are not empty and not yet present. -/
def addNew (acc : List String) : List String → List String
  | [] => acc
  | d :: ds => if d.isEmpty || acc.contains d then addNew acc ds else addNew (acc ++ [d]) ds

namespace Declarations

/-- The containers this one needs started first, each once, in declaration order. -/
def dependencies (d : Declarations) : List String :=
  let deps := addNew [] d.volumesFrom
  let deps := if d.network.isCustom then deps else addNew deps (d.links.map linkTarget)
  let deps := addNew deps d.network.containerAlias.toList
  if d.network.isCustom then addNew deps d.dependsOn else deps

end Declarations

end Mooring.Order

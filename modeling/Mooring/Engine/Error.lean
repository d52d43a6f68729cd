import Mooring.Image.Name
namespace Mooring.Engine

open Mooring.Image

/-- Why an engine call failed. -/
inductive EngineError where
  /-- The engine answered with a status the caller does not accept. -/
  | status (method url : String) (status : Nat) (body : String)
  /-- The engine could not be reached, or the connection broke. -/
  | transport (url reason : String)
  /-- Client certificate material could not be loaded. -/
  | tls (path reason : String)
  /-- A streamed operation reported error events: the first message and how many. -/
  | stream (operation message : String) (count : Nat)
  /-- A response body could not be decoded. -/
  | decode (url reason : String)
  /-- The endpoint address is unusable. -/
  | endpoint (url reason : String)
  | imageName (e : ImageNameError)
  /-- A push went through but its temporary registry tag stayed behind. -/
  | temporaryTag (image : String)
  | io (message : String)
  deriving DecidableEq

namespace EngineError

def message : EngineError → String
  | .status method url code body =>
    "Engine returned HTTP " ++ toString code ++ " for " ++ method ++ " " ++ url ++ ": " ++ body
  | .transport url reason => "Transport error talking to engine at " ++ url ++ ": " ++ reason
  | .tls path reason => "Invalid TLS material in " ++ path ++ ": " ++ reason
  | .stream operation message count =>
    "Engine reported " ++ toString count ++ " error(s) during " ++ operation ++ ": " ++ message
  | .decode url reason => "Unexpected engine response for " ++ url ++ ": " ++ reason
  | .endpoint url reason => "Invalid engine endpoint '" ++ url ++ "': " ++ reason
  | .imageName e => e.message
  | .temporaryTag image =>
    "Image '" ++ image ++ "' was pushed, but the temporary tag could not be removed"
  | .io message => "I/O error: " ++ message

/-- The name of the kind of error, with the kind of a wrapped error after a dot. -/
def kind : EngineError → String
  | .status .. => "Status"
  | .transport .. => "Transport"
  | .tls .. => "Tls"
  | .stream .. => "Stream"
  | .decode .. => "Decode"
  | .endpoint .. => "Endpoint"
  | .imageName e => "ImageNameError." ++ e.kind
  | .temporaryTag .. => "TemporaryTag"
  | .io .. => "Io"

/-- The status the engine answered with, if that is what went wrong. -/
def status? : EngineError → Option Nat
  | .status _ _ s _ => some s
  | _ => none

def isNotFound (e : EngineError) : Bool := e.status? == some 404

end EngineError

end Mooring.Engine

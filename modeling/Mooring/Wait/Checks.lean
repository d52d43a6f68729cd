import Mooring.Wait.Error
import Mooring.Text.Blank
import Mooring.Text.Integer
namespace Mooring.Wait

open Mooring.Text

/-- An inclusive range of accepted HTTP status codes. -/
structure StatusRange where
  start : Nat
  stop : Nat
  deriving DecidableEq

namespace StatusRange

def default : StatusRange := ⟨200, 399⟩

def contains (r : StatusRange) (status : Nat) : Bool := r.start ≤ status && status ≤ r.stop

/-- The two codes of `start ..+ stop` with optional blanks around the dots. -/
def splitRange (s : List Char) : Option (List Char × List Char) :=
  let first := s.takeWhile Char.isDigit
  let rest := (s.drop first.length).dropWhile isBlank
  let dots := rest.takeWhile (· = '.')
  let rest := (rest.drop dots.length).dropWhile isBlank
  if first.isEmpty || dots.length < 2 || rest.isEmpty || !rest.all Char.isDigit then none
  else some (first, rest)

/-- Reads `200..399` or a single code, after trimming blanks. -/
def parse (text : String) : Except WaitError StatusRange :=
  let s := trim text
  let invalid : WaitError := .invalidCheck ("invalid status range '" ++ s ++ "'")
  match splitRange s.toList with
  | some (a, b) =>
    match parseU16? (String.ofList a), parseU16? (String.ofList b) with
    | some start, some stop => .ok ⟨start, stop⟩
    | _, _ => .error invalid
  | none =>
    match parseU16? s with
    | some code => .ok ⟨code, code⟩
    | none => .error invalid

end StatusRange

/-- A character of an HTTP token. -/
def isTokenChar (c : Char) : Bool :=
  (c.isAlphanum && c.toNat < 0x80) || "!#$%&*+-.^_|~".toList.contains c ||
    c.toNat = 0x27 || c.toNat = 0x60

/-- The method of an HTTP request, trimmed and upper-cased, when it is a token. -/
def parseMethod (method : String) : Except WaitError String :=
  let m := (trim method).toList.map fun c => if c.toNat < 0x80 then c.toUpper else c
  if !m.isEmpty && m.all isTokenChar then .ok (String.ofList m)
  else .error (.invalidCheck ("invalid HTTP method '" ++ method ++ "'"))

/-- Ready once a request to the URL is answered with a status in the range. -/
structure HttpCheck where
  url : String
  method : String
  status : StatusRange
  /-- Whether certificates and host names go unchecked. -/
  allowAllHosts : Bool
  deriving DecidableEq

namespace HttpCheck

/-- Builds a check; the method is checked before the range. -/
def withOptions (url : String) (method status : Option String) (allowAllHosts : Bool) :
    Except WaitError HttpCheck := do
  let method ← match method with
    | some m => parseMethod m
    | none => pure "HEAD"
  let status ← match status with
    | some s => StatusRange.parse s
    | none => pure .default
  return ⟨url, method, status, allowAllHosts⟩

def label (c : HttpCheck) : String := "on url " ++ c.url

end HttpCheck

/-- Ready once every port on the host has accepted a connection; ports that did are not probed
again. -/
structure TcpCheck where
  host : String
  ports : List Nat
  /-- The ports that have not yet accepted a connection. -/
  pending : List Nat
  deriving DecidableEq

namespace TcpCheck

def new (host : String) (ports : List Nat) : TcpCheck := ⟨host, ports, ports⟩

def label (c : TcpCheck) : String :=
  "on tcp port '" ++ ", ".intercalate (c.ports.map toString) ++ "' [" ++ c.host ++ "]"

end TcpCheck

end Mooring.Wait

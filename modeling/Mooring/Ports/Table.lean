import Mooring.Ports.Spec
import Mooring.Collections.KeyMap
namespace Mooring.Ports

open Mooring.Collections

/-- The bound port and host variables, each map in name order. -/
structure PortTable where
  ports : KeyMap Nat
  hosts : KeyMap String
  deriving Inhabited

/-- A step that reads and binds variables of the table and may fail; the bindings made before a
failure stay. -/
abbrev TableM := ExceptT PortSpecError (StateM PortTable)

namespace PortTable

def empty : PortTable := ⟨[], []⟩

def get? (t : PortTable) (name : String) : Option Nat := t.ports.find? name

def getHost? (t : PortTable) (name : String) : Option String := t.hosts.find? name

def isEmpty (t : PortTable) : Bool := t.ports.isEmpty && t.hosts.isEmpty

/-- Binds a port variable, refusing another port than the bound one. -/
def bind (name : String) (port : Nat) : TableM Unit := do
  let t ← get
  match t.get? name with
  | some bound =>
    if bound = port then pure () else throw (.rebind name bound port)
  | none => set { t with ports := t.ports.insert name port }

/-- Binds a host variable, refusing another address than the bound one. -/
def bindHost (name : String) (ip : String) : TableM Unit := do
  let t ← get
  match t.getHost? name with
  | some bound =>
    if bound = ip then pure () else throw (.hostRebind name bound ip)
  | none => set { t with hosts := t.hosts.insert name ip }

/-- The value of a reference: the port, else the host address. -/
def valueOf? (t : PortTable) (name : String) : Option String :=
  match t.get? name with
  | some port => some (toString port)
  | none => t.getHost? name

/-- Replaces references `${name}`, `name` a non-empty text without `}`, from left to right. -/
def substituteChars (t : PortTable) : List Char → List Char
  | [] => []
  | '$' :: '{' :: rest =>
    let name := rest.takeWhile (· ≠ '}')
    match _h : rest.drop name.length with
    | '}' :: after =>
      if name.isEmpty then '$' :: substituteChars t ('{' :: rest)
      else
        let text := match t.valueOf? (String.ofList name) with
          | some v => v.toList
          | none => '$' :: '{' :: name ++ ['}']
        text ++ substituteChars t after
    | _ => '$' :: substituteChars t ('{' :: rest)
  | c :: rest => c :: substituteChars t rest
  termination_by s => s.length
  decreasing_by
    all_goals try simp
    have := congrArg List.length _h
    simp at this
    omega

def substitute (t : PortTable) (text : String) : String :=
  String.ofList (t.substituteChars text.toList)

/-- A property name with `=`, `:`, blanks, `#`, `!` and backslashes escaped. -/
def escapeKey (key : String) : String :=
  String.join (key.toList.map fun c =>
    if c = '=' || c = ':' || c = ' ' || c = '#' || c = '!' || c = '\\' then
      "\\" ++ String.singleton c
    else String.singleton c)

/-- The table as a properties text. -/
def properties (t : PortTable) : String :=
  let entries := t.hosts.insertAll (t.ports.map fun (k, v) => (k, toString v))
  "#Docker ports\n" ++ String.join (entries.map fun (k, v) => escapeKey k ++ "=" ++ v ++ "\n")

end PortTable

end Mooring.Ports

import Mooring.Json.Reader
import Mooring.Json.Writer
import Mooring.Text.Blank
import Mooring.Collections.KeyMap
namespace Mooring.Engine

open Mooring.Json Mooring.Text Mooring.Collections

/-- Where the scan of a stream stands between chunks. -/
structure StreamDecoder where
  /-- Bytes held back: the start of a value, or of a malformed fragment. -/
  buffer : Array UInt8
  /-- How many bytes of the buffer were scanned already. -/
  scanned : Nat
  depth : Nat
  inString : Bool
  escaped : Bool
  /-- Discarding a malformed fragment up to the next line feed. -/
  skipping : Bool
  /-- Malformed fragments skipped so far. -/
  warnings : Nat
  deriving Inhabited

def isAsciiSpace (b : UInt8) : Bool :=
  b == 0x20 || b == 0x09 || b == 0x0A || b == 0x0C || b == 0x0D

namespace StreamDecoder

def empty : StreamDecoder := ⟨#[], 0, 0, false, false, false, 0⟩

/-- Drops a malformed fragment: one more warning, and the scan starts afresh. -/
def skip (d : StreamDecoder) : StreamDecoder :=
  { d with warnings := d.warnings + 1, depth := 0, inString := false, escaped := false,
           skipping := false }

/-- The scan of one byte `b`, given the bytes `held` since the start of the value or fragment
being accumulated (without `b`): the decoder afterwards, whether the held bytes are let go so
that the next value starts after `b`, and the value that `b` completed, if any. -/
def scanByte (d : StreamDecoder) (held : Bytes) (b : UInt8) :
    StreamDecoder × Bool × Option Value :=
  if d.skipping then
    if b == 0x0A then (d.skip, true, none) else (d, false, none)
  else if d.inString then
    if d.escaped then ({ d with escaped := false }, false, none)
    else if b == 0x5C then ({ d with escaped := true }, false, none)
    else if b == 0x22 then ({ d with inString := false }, false, none)
    else (d, false, none)
  else if b == 0x7B || b == 0x5B then ({ d with depth := d.depth + 1 }, false, none)
  else if 0 < d.depth then
    if b == 0x22 then ({ d with inString := true }, false, none)
    else if b == 0x7D || b == 0x5D then
      let d := { d with depth := d.depth - 1 }
      if d.depth == 0 then
        match Value.read (held ++ [b]) with
        | .ok v => (d, true, some v)
        | .error _ => ({ d with skipping := true }, false, none)
      else (d, false, none)
    else if b == 0x0A then
      match Value.read held with
      | .error e => if e.isEof then (d, false, none) else (d.skip, true, none)
      | .ok _ => (d, false, none)
    else (d, false, none)
  else if isAsciiSpace b then (d, true, none)
  else ({ d with skipping := true }, false, none)

/-- The scan of the byte at `i` of `buf`, on the decoder, the start of the value being held,
and the values completed so far, newest first. -/
def step (buf : Array UInt8) (st : StreamDecoder × Nat × List Value) (i : Nat) :
    StreamDecoder × Nat × List Value :=
  let (d, start, values) := st
  let (d, restart, value) := scanByte d (buf.extract start i).toList (buf.getD i 0)
  (d, if restart then i + 1 else start, value.toList ++ values)

/-- Feeds a chunk; gives every value it completed, in order. -/
def push (d : StreamDecoder) (chunk : List UInt8) : StreamDecoder × List Value :=
  let buf := d.buffer ++ chunk.toArray
  let (d', start, values) :=
    (List.range' d.scanned (buf.size - d.scanned)).foldl (step buf) (d, 0, [])
  let rest := buf.extract start buf.size
  ({ d' with buffer := rest, scanned := rest.size }, values.reverse)

/-- Ends the input: bytes held back that are not all blank count as one more warning. -/
def finish (d : StreamDecoder) : StreamDecoder :=
  let rest := trim (Utf8.decodeLossy d.buffer.toList)
  { empty with warnings := d.warnings + (if rest.isEmpty then 0 else 1) }

def pendingBytes (d : StreamDecoder) : Nat := d.buffer.size

end StreamDecoder

/-- One event of a build, pull or push stream. -/
inductive StreamEvent where
  /-- Progress of a layer transfer, with the engine's rendering of a bar when it sends one. -/
  | progress (id status : Option String) (current total : Option Nat) (bar : Option String)
  | status (id : Option String) (status : String)
  /-- A line of build output. -/
  | stream (text : String)
  | error (message : String) (detail : Option String)
  | other (value : Value)

namespace StreamEvent

/-- Classifies a value: errors first, then progress, then status, then build output. -/
def classify (v : Value) : StreamEvent :=
  let text (key : String) : Option String := (v.get? key).bind Value.asString?
  match text "error" with
  | some err =>
    let detail := (((v.get? "errorDetail").bind (·.get? "message"))).bind Value.asString?
    .error (detail.getD err) detail
  | none =>
    let progressDetail := v.get? "progressDetail"
    let current := (progressDetail.bind (·.get? "current")).bind Value.asNatural?
    let total := (progressDetail.bind (·.get? "total")).bind Value.asNatural?
    if current.isSome || total.isSome then
      .progress (text "id") (text "status") current total (text "progress")
    else
      match text "status", text "stream" with
      | some s, _ => .status (text "id") s
      | none, some line => .stream line
      | none, none => .other v

def isError : StreamEvent → Bool
  | .error .. => true
  | _ => false

/-- The message of an error event. -/
def errorMessage? : StreamEvent → Option String
  | .error message _ => some message
  | _ => none

end StreamEvent

/-- The level of a log record. -/
inductive LogLevel where
  | info
  | error
  | debug
  deriving DecidableEq

def LogLevel.toText : LogLevel → String
  | .info => "INFO"
  | .error => "ERROR"
  | .debug => "DEBUG"

/-- A log record: its level and text. -/
structure LogRecord where
  level : LogLevel
  message : String
  deriving DecidableEq

def u64Max : Nat := Nat.pow 2 64 - 1

/-- Reports stream events as log records, each layer's progress once per ten percent. -/
structure ProgressLog where
  operation : String
  /-- The last percentage reported for each layer. -/
  layers : KeyMap Nat

namespace ProgressLog

def new (operation : String) : ProgressLog := ⟨operation, []⟩

/-- The percentage a transfer stands at: `current · 100`, the product saturating at the largest
u64, over `total`. -/
def percentOf (current total : Nat) : Nat := min (current * 100) u64Max / total

/-- Whether a layer last reported at `last` is reported at `percent`: ten points more than `last`,
the sum wrapping around at 2^64 as u64 arithmetic does, or a hundred that was not the last. -/
def dueAfter (last percent : Nat) : Bool :=
  percent ≥ (last + 10) % Nat.pow 2 64 || (percent = 100 && last ≠ 100)

def progressLine (operation layer status : String) (percent : Nat) : LogRecord :=
  ⟨.info, operation ++ " " ++ layer ++ " " ++ status ++ ": " ++ toString percent ++ "%"⟩

/-- The records for one event, and the log after it. A layer is reported when its percentage
rose by ten since it was last reported, or first reaches a hundred. -/
def handle (log : ProgressLog) : StreamEvent → ProgressLog × List LogRecord
  | .progress id status (some current) (some total) _ =>
    if total = 0 then (log, [])
    else
      let percent := percentOf current total
      let layer := id.getD ""
      let last := (log.layers.find? layer).getD 0
      let log := { log with layers := log.layers.insert layer last }
      if dueAfter last percent then
        ({ log with layers := log.layers.insert layer percent },
          [progressLine log.operation layer (status.getD "") percent])
      else (log, [])
  | .progress .. => (log, [])
  | .status (some id) status => (log, [⟨.info, log.operation ++ " " ++ id ++ ": " ++ status⟩])
  | .status none status => (log, [⟨.info, log.operation ++ " " ++ status⟩])
  | .stream line =>
    let line := trimEnd line
    if line.isEmpty then (log, []) else (log, [⟨.info, log.operation ++ " | " ++ line⟩])
  | .error message _ => (log, [⟨.error, log.operation ++ " failed: " ++ message⟩])
  | .other value => (log, [⟨.debug, log.operation ++ " " ++ value.render⟩])

end ProgressLog

end Mooring.Engine

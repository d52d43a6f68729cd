import Mooring.Text.Blank
import Mooring.Text.Utf8
namespace Mooring.Engine

open Mooring.Text

/-- Which output stream a line came from. -/
inductive LogStream where
  | stdin
  | stdout
  | stderr
  /-- The output of a terminal, where the streams are not told apart. -/
  | raw
  deriving DecidableEq, Inhabited

namespace LogStream

def toText : LogStream → String
  | .stdin => "stdin"
  | .stdout => "stdout"
  | .stderr => "stderr"
  | .raw => "raw"

def ofFrameType? : UInt8 → Option LogStream
  | 0 => some .stdin
  | 1 => some .stdout
  | 2 => some .stderr
  | _ => none

end LogStream

/-- An instant with the offset it was written in. -/
structure Timestamp where
  /-- Seconds since the Unix epoch. -/
  secs : Int
  /-- Nanoseconds past `secs`; a leap second counts from a billion up. -/
  nanos : Nat
  /-- The offset from UTC, in seconds. -/
  offset : Int
  deriving DecidableEq

/-- The days from 1970-01-01 to a date of the proleptic Gregorian calendar. -/
def daysFromCivil (year : Int) (month day : Nat) : Int :=
  let y := if month ≤ 2 then year - 1 else year
  let era := Int.fdiv y 400
  let yoe := y - era * 400
  let mp : Int := if month > 2 then month - 3 else month + 9
  let doy := (153 * mp + 2) / 5 + day - 1
  let doe := yoe * 365 + yoe / 4 - yoe / 100 + doy
  era * 146097 + doe - 719468

/-- The number of days of a month. -/
def monthLength (year : Int) (month : Nat) : Nat :=
  let leap := year % 4 == 0 && (year % 100 != 0 || year % 400 == 0)
  match month with
  | 2 => if leap then 29 else 28
  | 4 | 6 | 9 | 11 => 30
  | _ => 31

/-- Exactly `n` ASCII digits, as a number, and the rest. -/
def digitsN : Nat → List Char → Option (Nat × List Char)
  | 0, s => some (0, s)
  | n + 1, c :: s =>
    if c.isDigit then
      (digitsN n s).map fun (v, rest) => ((c.toNat - 48) * Nat.pow 10 n + v, rest)
    else none
  | _ + 1, [] => none

/-- A fraction of a second after its point: at least one digit, in nanoseconds, digits beyond
the ninth skipped. -/
def fractionNanos (s : List Char) : Option (Nat × List Char) :=
  let ds := s.takeWhile Char.isDigit
  if ds.isEmpty then none
  else
    let kept := ds.take 9
    let v := kept.foldl (fun acc c => acc * 10 + (c.toNat - 48)) 0
    some (v * Nat.pow 10 (9 - kept.length), s.drop ds.length)

/-- An offset: `Z`, or a sign (a minus sign character too) with hours and minutes, in seconds. -/
def offsetSeconds : List Char → Option (Int × List Char)
  | 'Z' :: rest | 'z' :: rest => some (0, rest)
  | c :: rest =>
    let negative := c = '-' || c = '−'
    if c = '+' || negative then do
      let (h, rest) ← digitsN 2 rest
      let rest ← match rest with
        | ':' :: rest => some rest
        | _ => none
      let (m, rest) ← match rest with
        | a :: b :: more =>
          if a.isDigit && b.isDigit && a.toNat < 54 then some ((a.toNat - 48) * 10 + (b.toNat - 48), more)
          else none
        | _ => none
      let seconds : Int := h * 3600 + m * 60
      some (if negative then -seconds else seconds, rest)
    else none
  | [] => none

/-- Reads an RFC 3339 timestamp that makes up the whole text. -/
def parseRfc3339 (text : String) : Option Timestamp := do
  let s := text.toList
  let (year, s) ← digitsN 4 s
  let s ← match s with | '-' :: s => some s | _ => none
  let (month, s) ← digitsN 2 s
  let s ← match s with | '-' :: s => some s | _ => none
  let (day, s) ← digitsN 2 s
  let s ← match s with | 'T' :: s | 't' :: s | ' ' :: s => some s | _ => none
  let (hour, s) ← digitsN 2 s
  let s ← match s with | ':' :: s => some s | _ => none
  let (minute, s) ← digitsN 2 s
  let s ← match s with | ':' :: s => some s | _ => none
  let (second, s) ← digitsN 2 s
  let (nanos, s) ← match s with
    | '.' :: s => fractionNanos s
    | s => some (0, s)
  let (offset, s) ← offsetSeconds s
  guard (s.isEmpty && offset.natAbs ≤ (23 * 60 + 59) * 60)
  guard (1 ≤ month && month ≤ 12 && 1 ≤ day && day ≤ monthLength year month)
  guard (hour ≤ 23 && minute ≤ 59 && second ≤ 60)
  let (second, nanos) := if second = 60 then (59, nanos + 1000000000) else (second, nanos)
  let wall := daysFromCivil year month day * 86400 + (hour * 3600 + minute * 60 + second : Nat)
  return ⟨wall - offset, nanos, offset⟩

/-- One decoded log line. -/
structure LogLine where
  stream : LogStream
  /-- The engine's timestamp, when the line starts with one. -/
  timestamp : Option Timestamp
  text : String

/-- The timestamp text and the entry of a line, when it has the shape of one with a timestamp:
an optional `[`, a run without blanks or `]`, an optional `]`, at least one blank, and an entry
without a line feed once trailing blanks are dropped. -/
def splitTimestamp (line : List Char) : Option (String × String) :=
  let s := match line with
    | '[' :: s => s
    | s => s
  let stamp := s.takeWhile fun c => !isBlank c && c ≠ ']'
  let rest := s.drop stamp.length
  let rest := match rest with
    | ']' :: rest => rest
    | rest => rest
  let blanks := rest.takeWhile isBlank
  let entry := (rest.drop blanks.length).reverse.dropWhile isBlank |>.reverse
  if blanks.isEmpty || entry.contains '\n' then none
  else some (String.ofList stamp, String.ofList entry)

namespace LogLine

/-- Splits a raw line into timestamp and text, after dropping its line end. -/
def parse (stream : LogStream) (raw : String) : LogLine :=
  let line := (raw.toList.reverse.dropWhile fun c => c = '\r' || c = '\n').reverse
  let fallback : LogLine := ⟨stream, none, String.ofList line⟩
  match splitTimestamp line with
  | some (stamp, entry) =>
    match parseRfc3339 stamp with
    | some t => ⟨stream, some t, entry⟩
    | none => fallback
  | none => fallback

end LogLine

/-- The decoder of framed or raw log output, between chunks. -/
structure LogDecoder where
  /-- Bytes not yet split into frames. -/
  buffer : List UInt8
  /-- Whether the output is framed, once eight bytes have been seen. -/
  framed : Option Bool
  /-- The partial line of each stream. -/
  partials : LogStream → List UInt8

namespace LogDecoder

def empty : LogDecoder := ⟨[], none, fun _ => []⟩

/-- Whether output starting with these bytes is framed. -/
def looksFramed : List UInt8 → Bool
  | t :: 0 :: 0 :: 0 :: _ => (LogStream.ofFrameType? t).isSome
  | _ => false

/-- The stream and payload size of the frame at the front, once its header is complete; an
unknown stream byte counts as standard output. -/
def frameHeader : List UInt8 → Option (LogStream × Nat)
  | t :: _ :: _ :: _ :: a :: b :: c :: d :: _ =>
    some ((LogStream.ofFrameType? t).getD .stdout,
      ((a.toNat * 256 + b.toNat) * 256 + c.toNat) * 256 + d.toNat)
  | _ => none

/-- Splits a payload of a stream into lines, the last partial line held back. -/
def splitLines (d : LogDecoder) (stream : LogStream) (payload : List UInt8) :
    LogDecoder × List LogLine :=
  let (partial_, lines) := payload.foldl (fun (partial_, lines) b =>
      if b == 0x0A then ([], LogLine.parse stream (Utf8.decodeLossy partial_.reverse) :: lines)
      else (b :: partial_, lines))
    ((d.partials stream).reverse, [])
  ({ d with partials := fun s => if s = stream then partial_.reverse else d.partials s },
    lines.reverse)

/-- Takes complete frames off the buffer, at most `fuel` of them. -/
def frames (d : LogDecoder) : Nat → LogDecoder × List LogLine
  | 0 => (d, [])
  | fuel + 1 =>
    match frameHeader d.buffer with
    | some (stream, size) =>
      if d.buffer.length < 8 + size then (d, [])
      else
        let payload := (d.buffer.drop 8).take size
        let (d, lines) := splitLines { d with buffer := d.buffer.drop (8 + size) } stream payload
        let (d, more) := frames d fuel
        (d, lines ++ more)
    | none => (d, [])

/-- Feeds a chunk; gives every line it completed. -/
def push (d : LogDecoder) (chunk : List UInt8) : LogDecoder × List LogLine :=
  let d := { d with buffer := d.buffer ++ chunk }
  let d := match d.framed with
    | none => if d.buffer.length < 8 then d else { d with framed := some (looksFramed d.buffer) }
    | some _ => d
  match d.framed with
  | none => (d, [])
  | some true => frames d d.buffer.length
  | some false => splitLines { d with buffer := [] } .raw d.buffer

/-- Ends the output: bytes too short to be a frame are raw output, and every partial line is a
line, in the order standard input, output, error, raw. -/
def finish (d : LogDecoder) : LogDecoder × List LogLine :=
  let (d, lines) :=
    if d.buffer.isEmpty then (d, []) else splitLines { d with buffer := [] } .raw d.buffer
  let rest := [LogStream.stdin, .stdout, .stderr, .raw].filterMap fun s =>
    let p := d.partials s
    if p.isEmpty then none else some (LogLine.parse s (Utf8.decodeLossy p))
  ({ d with partials := fun _ => [] }, lines ++ rest)

end LogDecoder

/-- Decodes a whole log body at once. -/
def decodeAll (body : List UInt8) : List LogLine :=
  let (d, lines) := LogDecoder.empty.push body
  lines ++ (d.finish).2

end Mooring.Engine

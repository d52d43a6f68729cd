import Mooring.Toml.Syntax
import Mooring.Toml.Document
import Mooring.Text.Utf8
namespace Mooring.Toml

open Reader Mooring.Record Mooring.Float Mooring.Text

def isWsChar (b : UInt8) : Bool := b == 0x20 || b == 0x09

def isNonAscii (b : UInt8) : Bool := 0x80 ≤ b

def isDigitByte (b : UInt8) : Bool := 0x30 ≤ b && b ≤ 0x39

def isHexDigitByte (b : UInt8) : Bool :=
  isDigitByte b || (0x41 ≤ b && b ≤ 0x46) || (0x61 ≤ b && b ≤ 0x66)

def isBasicUnescaped (b : UInt8) : Bool :=
  isWsChar b || b == 0x21 || (0x23 ≤ b && b ≤ 0x5B) || (0x5D ≤ b && b ≤ 0x7E) || isNonAscii b

def isLiteralChar (b : UInt8) : Bool :=
  b == 0x09 || (0x20 ≤ b && b ≤ 0x26) || (0x28 ≤ b && b ≤ 0x7E) || isNonAscii b

def isNonEol (b : UInt8) : Bool := b == 0x09 || (0x20 ≤ b && b ≤ 0x7E) || isNonAscii b

def isBareKeyChar (b : UInt8) : Bool :=
  (0x41 ≤ b && b ≤ 0x5A) || (0x61 ≤ b && b ≤ 0x7A) || isDigitByte b || b == 0x2D || b == 0x5F

def ascii (s : String) : Bytes := s.toList.map fun c => c.toNat.toUInt8

/-- A bound on the steps of a loop over the rest of the input: each step consumes a byte. -/
def budget : Reader Nat := do return (← get).length + 1

def ws : Reader Unit := do let _ ← takeWhile isWsChar

def newline : Reader Unit := orElse (byte 0x0A) (do byte 0x0D; byte 0x0A)

def comment : Reader Unit := do
  byte 0x23
  let _ ← takeWhile isNonEol

def lineEnding : Reader Unit := orElse newline eof

/-- Blanks, an optional comment, and the end of the line. -/
def lineTrailing : Reader Unit := do
  ws
  let _ ← optional comment
  lineEnding

/-- Blanks, comments and line ends, as between the values of an array. -/
def wsCommentNewline : Reader Unit := do loop (← budget)
where
  loop : Nat → Reader Unit
    | 0 => pure ()
    | n + 1 => do
      let before := (← get).length
      ws
      match ← peek with
      | some 0x23 => comment; newline
      | some 0x0A | some 0x0D => newline
      | _ => return ()
      if (← get).length < before then loop n

def wsNewline : Reader Unit := do
  let _ ← many (orElse newline (do let _ ← takeWhile1 isWsChar)) (← budget)

/-- The character of a `\u` or `\U` escape of `n` hex digits, as UTF-8. -/
def hexEscape (n : Nat) : Reader Bytes := do
  let code ← tryMap (verify (takeBetween 0 n isHexDigitByte) (·.length == n)) fun ds =>
    let v := ds.foldl (fun acc d =>
      acc * 16 + (if d ≤ 0x39 then d.toNat - 0x30 else if d ≤ 0x46 then d.toNat - 0x37
        else d.toNat - 0x57)) 0
    if v < 0xD800 || (0xDFFF < v && v < 0x110000) then .ok v else .error "value is out of range"
  return Utf8.encodeChar (Char.ofNat code)

/-- The character after a backslash. -/
def escapeSeq : Reader Bytes := do
  match ← any with
  | 0x62 => return [0x08]
  | 0x66 => return [0x0C]
  | 0x6E => return [0x0A]
  | 0x72 => return [0x0D]
  | 0x74 => return [0x09]
  | 0x75 => cut (label "unicode 4-digit hex code" (hexEscape 4))
  | 0x55 => cut (label "unicode 8-digit hex code" (hexEscape 8))
  | 0x5C => return [0x5C]
  | 0x22 => return [0x22]
  | _ =>
    cut (fail ([.label "escape sequence"] ++
      ['b', 'f', 'n', 'r', 't', 'u', 'U', '\\', '"'].map fun c => .expected (.char c)) none)

def escaped : Reader Bytes := do
  byte 0x5C
  escapeSeq

def basicString : Reader Bytes := do
  byte 0x22
  let chunks ← many (orElse (takeWhile1 isBasicUnescaped) escaped) (← budget)
  cut (label "basic string" (byte 0x22))
  return chunks.flatten

/-- One or two quotes (`q`) before what `term` reads, which is left unread. -/
def closingQuotes (q : UInt8) (term : Reader Unit) : Reader Bytes :=
  orElse (do literal [q, q]; lookahead term; return [q, q])
    (do byte q; lookahead term; return [q])

/-- A line end escaped by a backslash, with the blanks and line ends after it. -/
def escapedNewline : Reader Unit := do
  let once : Reader Unit := do byte 0x5C; ws; newline; wsNewline
  once
  let _ ← many once (← budget)

def mlBasicContent : Reader Bytes :=
  orElse (takeWhile1 isBasicUnescaped) <| orElse (do escapedNewline; return []) <|
    orElse escaped (do newline; return [0x0A])

/-- The runs of quotes inside a multi-line basic string, each followed by content. -/
def mlBasicQuoted : Nat → Reader Bytes
  | 0 => return []
  | n + 1 => do
    match ← optional (closingQuotes 0x22 (do let _ ← oneOf (· != 0x22))) with
    | none => return []
    | some q =>
      match ← optional mlBasicContent with
      | none => return []
      | some c =>
        let more ← many mlBasicContent (← budget)
        let rest ← mlBasicQuoted n
        return q ++ c ++ more.flatten ++ rest

def mlBasicBody : Reader Bytes := do
  let content ← many mlBasicContent (← budget)
  let quoted ← mlBasicQuoted (← budget)
  let last ← optional (closingQuotes 0x22 (literal (ascii "\"\"\"")))
  return content.flatten ++ quoted ++ last.getD []

def mlBasicString : Reader Bytes := label "multiline basic string" do
  literal (ascii "\"\"\"")
  let _ ← optional newline
  let body ← cut mlBasicBody
  cut (literal (ascii "\"\"\""))
  return body

def literalString : Reader Bytes := label "literal string" do
  byte 0x27
  let body ← cut (takeWhile isLiteralChar)
  cut (byte 0x27)
  return body

def mlLiteralContent : Reader Unit := orElse (do let _ ← oneOf isLiteralChar) newline

/-- Replaces each carriage return before a line feed by nothing. -/
def dropCarriageReturns : Bytes → Bytes
  | 0x0D :: 0x0A :: rest => 0x0A :: dropCarriageReturns rest
  | b :: rest => b :: dropCarriageReturns rest
  | [] => []

def mlLiteralBody : Reader Bytes := do
  let raw ← recognize do
    let _ ← many mlLiteralContent (← budget)
    let _ ← many (do
      let _ ← closingQuotes 0x27 (do let _ ← oneOf (· != 0x27))
      mlLiteralContent
      let _ ← many mlLiteralContent (← budget)) (← budget)
    let _ ← optional (closingQuotes 0x27 (literal (ascii "'''")))
  return dropCarriageReturns raw

def mlLiteralString : Reader Bytes := label "multiline literal string" do
  literal (ascii "'''")
  let _ ← optional newline
  let body ← cut mlLiteralBody
  cut (literal (ascii "'''"))
  return body

def string : Reader Bytes :=
  orElse mlBasicString <| orElse basicString <| orElse mlLiteralString literalString

def textOf (bs : Bytes) : String := Utf8.decodeLossy bs

section
variable (total : Nat)

def offset : Reader Nat := do return total - (← get).length

def simpleKey : Reader Key := do
  let start ← offset total
  let name ← match ← peek with
    | some 0x22 => basicString
    | some 0x27 => literalString
    | some _ => takeWhile1 isBareKeyChar
    | none => fail [] none
  return ⟨textOf name, (start, ← offset total)⟩

def keyPart : Reader Key := do
  ws
  let k ← simpleKey total
  ws
  return k

/-- A key, dotted or not, as its parts; at most 79 of them. -/
def key : Reader (List Key) :=
  tryMap (label "key" do
      let first ← keyPart total
      let rest ← many (do byte 0x2E; keyPart total) (← budget)
      return first :: rest)
    fun parts => if parts.length < 80 then .ok parts else .error "recursion limit exceeded"

end

def digit : Reader Unit := do let _ ← oneOf isDigitByte

/-- A digit, or an underscore that a digit must follow. -/
def digitOrSeparator (isDigit : UInt8 → Bool) : Reader Unit :=
  orElse (do let _ ← oneOf isDigit)
    (do byte 0x5F; cut (expecting (.description "digit") (do let _ ← oneOf isDigit)))

def sign : Reader (Option UInt8) := optional (oneOf fun b => b == 0x2B || b == 0x2D)

/-- The text of a decimal integer. -/
def decIntText : Reader Bytes := label "integer" <| recognize do
  let _ ← sign
  orElse (do
      let _ ← oneOf fun b => 0x31 ≤ b && b ≤ 0x39
      let _ ← many (digitOrSeparator isDigitByte) (← budget))
    digit

/-- The digits of a prefixed integer. -/
def radixText (prefixText : String) (isDigit : UInt8 → Bool) (name : String) : Reader Bytes :=
  label name do
    literal (ascii prefixText)
    cut <| recognize do
      let _ ← oneOf isDigit
      let _ ← many (digitOrSeparator isDigit) (← budget)

def digitValue (b : UInt8) : Nat :=
  if b ≤ 0x39 then b.toNat - 0x30 else if b ≤ 0x46 then b.toNat - 0x37 else b.toNat - 0x57

def digitsValue (radix : Nat) (ds : Bytes) : Nat :=
  (ds.filter (· != 0x5F)).foldl (fun acc d => acc * radix + digitValue d) 0

/-- A value in the range of 64-bit signed integers. -/
def inI64 (v : Int) : Except String Int :=
  if v > Nat.pow 2 63 - 1 then .error "number too large to fit in target type"
  else if v < -Nat.pow 2 63 then .error "number too small to fit in target type"
  else .ok v

def decimalValue (text : Bytes) : Except String Int :=
  match text with
  | 0x2D :: ds => inI64 (-(digitsValue 10 ds : Int))
  | 0x2B :: ds => inI64 (digitsValue 10 ds)
  | ds => inI64 (digitsValue 10 ds)

def integer : Reader Int := do
  match ← peekTwo with
  | some (0x30, 0x78) => cut (tryMap (radixText "0x" isHexDigitByte "hexadecimal integer")
      fun ds => inI64 (digitsValue 16 ds))
  | some (0x30, 0x6F) => cut (tryMap (radixText "0o" (fun b => 0x30 ≤ b && b ≤ 0x37)
      "octal integer") fun ds => inI64 (digitsValue 8 ds))
  | some (0x30, 0x62) => cut (tryMap (radixText "0b" (fun b => b == 0x30 || b == 0x31)
      "binary integer") fun ds => inI64 (digitsValue 2 ds))
  | _ => tryMapHard decIntText decimalValue

def zeroPrefixableInt : Reader Unit := do
  digit
  let _ ← many (digitOrSeparator isDigitByte) (← budget)

def exponentPart : Reader Unit := do
  let _ ← oneOf fun b => b == 0x65 || b == 0x45
  let _ ← sign
  cut zeroPrefixableInt

def fractionPart : Reader Unit := do
  byte 0x2E
  cut (expecting (.description "digit") zeroPrefixableInt)

def floatText : Reader Bytes := recognize do
  let _ ← decIntText
  orElse exponentPart (do fractionPart; let _ ← optional exponentPart)

/-- The value of a float text: sign, digits, fraction and exponent, rounded to the nearest. -/
def floatValue (text : Bytes) : Binary64 :=
  let text := text.filter (· != 0x5F)
  let (negative, text) := match text with
    | 0x2D :: rest => (true, rest)
    | 0x2B :: rest => (false, rest)
    | rest => (false, rest)
  let intDigits := text.takeWhile isDigitByte
  let rest := text.drop intDigits.length
  let (fracDigits, rest) := match rest with
    | 0x2E :: r => (r.takeWhile isDigitByte, r.drop (r.takeWhile isDigitByte).length)
    | r => ([], r)
  let exponent : Int := match rest with
    | _ :: 0x2D :: ds => -(digitsValue 10 ds : Int)
    | _ :: 0x2B :: ds => digitsValue 10 ds
    | _ :: ds => digitsValue 10 ds
    | [] => 0
  Binary64.ofDecimal negative (digitsValue 10 (intDigits ++ fracDigits))
    (exponent - fracDigits.length)

def specialFloat : Reader Binary64 := do
  let s ← sign
  let x ← orElse (do literal (ascii "inf"); return Binary64.infinity false)
    (do literal (ascii "nan"); return Binary64.nan)
  return if s == some 0x2D then x.neg else x

/-- A float; a finite text too large for a double is refused, unless it is negative. -/
def float : Reader Binary64 := label "floating-point number" <|
  orElse (verifyHard (floatValue <$> floatText) (· != Binary64.infinity false)) specialFloat

def digitsExactly (n : Nat) : Reader Nat := do
  return digitsValue 10 (← takeBetween n n isDigitByte)

def ranged (n lo hi : Nat) : Reader Nat :=
  tryMap (digitsExactly n) fun v => if lo ≤ v ∧ v ≤ hi then .ok v else .error "value is out of range"

def daysInMonth (year month : Nat) : Nat :=
  let leap := year % 4 == 0 && (year % 100 != 0 || year % 400 == 0)
  match month with
  | 2 => if leap then 29 else 28
  | 4 | 6 | 9 | 11 => 30
  | _ => 31

def fullDate : Reader Date := do
  let year ← digitsExactly 4
  byte 0x2D
  let month ← cut (ranged 2 1 12)
  cut (byte 0x2D)
  let day ← cut (tryMap (ranged 2 1 31) fun d =>
    if d ≤ daysInMonth year month then .ok d else .error "value is out of range")
  return ⟨year, month, day⟩

/-- A fraction of a second, in nanoseconds; digits beyond the ninth are dropped. -/
def secondFraction : Reader Nat := do
  byte 0x2E
  let ds ← takeWhile1 isDigitByte
  let ds := ds.take 9
  return digitsValue 10 ds * Nat.pow 10 (9 - ds.length)

def partialTime : Reader Time := do
  let hour ← ranged 2 0 23
  byte 0x3A
  cut do
    let minute ← ranged 2 0 59
    byte 0x3A
    let second ← ranged 2 0 60
    let fraction ← optional secondFraction
    return ⟨hour, minute, second, fraction.getD 0⟩

def timeOffset : Reader Offset := label "time offset" <|
  orElse (do let _ ← oneOf fun b => b == 0x5A || b == 0x7A; return .utc) do
    let s ← oneOf fun b => b == 0x2B || b == 0x2D
    cut do
      let h ← ranged 2 0 23
      byte 0x3A
      let m ← ranged 2 0 59
      let minutes : Int := h * 60 + m
      return .minutes (if s == 0x2D then -minutes else minutes)

def dateTime : Reader Datetime :=
  orElse
    (label "date-time" do
      let date ← fullDate
      let timePart ← optional do
        let _ ← oneOf fun b => b == 0x54 || b == 0x74 || b == 0x20
        let t ← partialTime
        let o ← optional timeOffset
        return (t, o)
      match timePart with
      | some (t, o) => return ⟨some date, some t, o⟩
      | none => return ⟨some date, none, none⟩)
    (label "time" do return ⟨none, some (← partialTime), none⟩)

end Mooring.Toml

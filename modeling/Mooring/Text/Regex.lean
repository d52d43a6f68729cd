import Mooring.Text.WordChar
import Mooring.Text.Blank
import Mooring.Text.CaseFoldData
namespace Mooring.Text

def caseFoldTable : Array (Nat × List Char) :=
  ((tableEntries caseFoldText).filterMap fun entry => do
    let (cp, mates) ← splitOnceChar ':' entry
    pure (hexValue cp, (splitAtEach ',' mates).map fun m => Char.ofNat (hexValue m))).toArray

/-- The other characters that simple case folding relates a character to. -/
def foldMates (c : Char) : List Char :=
  match caseFoldTable[lastAtMost caseFoldTable (·.1) c.toNat 0 caseFoldTable.size]? with
  | some (cp, mates) => if cp = c.toNat then mates else []
  | none => []

namespace Regex

structure Flags where
  caseless : Bool
  multiLine : Bool
  dotAll : Bool
  verbose : Bool
  /-- Classes, case and word boundaries are those of Unicode; off, those of ASCII. -/
  unicode : Bool
  /-- A carriage return ends a line too, for the line anchors and `.`. -/
  crlf : Bool

def Flags.initial : Flags := ⟨false, false, false, false, true, false⟩

/-- How letters compare: exactly, or ignoring case as ASCII or as Unicode folds it. -/
inductive Case where
  | exact
  | ascii
  | unicode

def Flags.case (f : Flags) : Case :=
  if !f.caseless then .exact else if f.unicode then .unicode else .ascii

/-- A class of characters named by an escape. -/
inductive Perl where
  | digit
  | word
  | space

/-- Whether a character is of the class, as Unicode has it or as ASCII does. -/
def Perl.test (unicode : Bool) : Perl → Char → Bool
  | .digit => if unicode then isUnicodeDigit else Char.isDigit
  | .word => if unicode then isWordChar else fun c => c.isAlphanum || c = '_'
  | .space => if unicode then isBlank else fun c => c = ' ' || ('\t' ≤ c && c ≤ '\r')

inductive ClassItem where
  | range (lo hi : Char)
  | perl (p : Perl) (negated unicode : Bool)

def ClassItem.test (c : Char) : ClassItem → Bool
  | .range lo hi => lo ≤ c && c ≤ hi
  | .perl p negated unicode => p.test unicode c != negated

/-- Whether the item takes in characters beyond ASCII; without Unicode only its negations and
byte escapes do. -/
def ClassItem.wide : ClassItem → Bool
  | .range _ hi => 0x80 ≤ hi.toNat
  | .perl _ negated _ => negated

/-- Which sides of a place a word assertion asks word characters on. -/
inductive WordLook where
  | boundary
  | notBoundary
  | start
  | stop
  | startHalf
  | stopHalf

def WordLook.holds (before after : Bool) : WordLook → Bool
  | .boundary => before != after
  | .notBoundary => before == after
  | .start => !before && after
  | .stop => before && !after
  | .startHalf => !before
  | .stopHalf => !after

inductive Assertion where
  | textStart
  | textEnd
  | lineStart (crlf : Bool)
  | lineEnd (crlf : Bool)
  | word (look : WordLook) (unicode : Bool)

/-- Why a pattern does not read, and where: the place and width of what is wrong. -/
structure ParseError where
  message : String
  position : Nat
  width : Nat

def invalidUtf8 : String := "pattern can match invalid UTF-8"

/-- A parsed pattern. A piece the pattern's flags make unusable is kept as `refused`, so that
a later syntax error is still found first. -/
inductive Expr where
  | empty
  | literal (c : Char) (mode : Case)
  | any (dotAll crlf : Bool)
  | set (items : List ClassItem) (negated : Bool) (mode : Case)
  | assert (a : Assertion)
  | seq (a b : Expr)
  | alt (a b : Expr)
  | rep (r : Expr) (min : Nat) (max : Option Nat)
  | refused (e : ParseError)

def Expr.size : Expr → Nat
  | .seq a b | .alt a b => a.size + b.size + 1
  | .rep r _ _ => r.size + 1
  | _ => 1

/-- The first refused piece, left to right. -/
def Expr.refusal : Expr → Option ParseError
  | .refused e => some e
  | .seq a b | .alt a b => a.refusal.orElse fun _ => b.refusal
  | .rep r _ _ => r.refusal
  | _ => none

structure Cursor where
  rest : List Char
  pos : Nat

def Cursor.advance (c : Cursor) (n : Nat) : Cursor := ⟨c.rest.drop n, c.pos + n⟩

abbrev ParseM := Except ParseError

/-- Skips blanks and comments, when the pattern is verbose. -/
def skipVerbose (flags : Flags) (c : Cursor) : Cursor :=
  if !flags.verbose then c
  else
    let rec go : Nat → Cursor → Cursor
      | 0, c => c
      | fuel + 1, c =>
        match c.rest with
        | x :: _ =>
          if isBlank x then go fuel (c.advance 1)
          else if x = '#' then
            let line := c.rest.takeWhile (· ≠ '\n')
            go fuel (c.advance (line.length + 1))
          else c
        | [] => c
    go (c.rest.length + 1) c

def hexChar? (digits : List Char) : Option Char :=
  if digits.isEmpty || !digits.all fun d => d.isDigit || ('a' ≤ d && d ≤ 'f') || ('A' ≤ d && d ≤ 'F')
  then none
  else
    let n := digits.foldl (fun acc d =>
      acc * 16 + (if d.isDigit then d.toNat - 48 else if d ≤ 'F' then d.toNat - 55 else d.toNat - 87)) 0
    if n < 0xD800 || (0xDFFF < n && n < 0x110000) then some (Char.ofNat n) else none

/-- An escape after its backslash. A character written `\xNN` is a byte when Unicode is off. -/
inductive Escape where
  | char (c : Char) (byte : Bool)
  | perl (p : Perl) (negated : Bool)
  | textStart
  | textEnd
  | word (look : WordLook)

def isBoundaryNameChar (x : Char) : Bool := ('a' ≤ x && x ≤ 'z') || ('A' ≤ x && x ≤ 'Z') || x = '-'

/-- Reads what follows `\b{`: a special word boundary, or nothing when a counted repetition
follows instead. -/
def specialWordBoundary (start : Nat) (body : List Char) : ParseM (Option (WordLook × Nat)) :=
  match body with
  | [] => .error ⟨"found either the beginning of a special word boundary or a bounded " ++
      "repetition on a \\b with an opening brace, but no closing brace", start, 3⟩
  | x :: _ =>
    if !isBoundaryNameChar x then .ok none
    else
      let name := body.takeWhile isBoundaryNameChar
      match body.drop name.length with
      | '}' :: _ =>
        match String.ofList name with
        | "start" => .ok (some (.start, name.length + 2))
        | "end" => .ok (some (.stop, name.length + 2))
        | "start-half" => .ok (some (.startHalf, name.length + 2))
        | "end-half" => .ok (some (.stopHalf, name.length + 2))
        | _ => .error ⟨"unrecognized special word boundary assertion, valid choices are: " ++
            "start, end, start-half or end-half", start + 3, name.length⟩
      | _ => .error ⟨"special word boundary assertion is either unclosed or contains an " ++
          "invalid character", start + 2, name.length + 1⟩

/-- Reads an escape; the cursor stands after the backslash. -/
def parseEscape (start : Nat) (c : Cursor) : ParseM (Escape × Cursor) :=
  match c.rest with
  | [] => .error ⟨"incomplete escape sequence, reached end of pattern prematurely", start, 1⟩
  | x :: more =>
    let c1 := c.advance 1
    match x with
    | 'd' => .ok (.perl .digit false, c1)
    | 'D' => .ok (.perl .digit true, c1)
    | 'w' => .ok (.perl .word false, c1)
    | 'W' => .ok (.perl .word true, c1)
    | 's' => .ok (.perl .space false, c1)
    | 'S' => .ok (.perl .space true, c1)
    | 'b' =>
      match more with
      | '{' :: body => do
        match ← specialWordBoundary start body with
        | some (look, n) => .ok (.word look, c.advance (n + 1))
        | none => .ok (.word .boundary, c1)
      | _ => .ok (.word .boundary, c1)
    | 'B' => .ok (.word .notBoundary, c1)
    | '<' => .ok (.word .start, c1)
    | '>' => .ok (.word .stop, c1)
    | 'A' => .ok (.textStart, c1)
    | 'z' => .ok (.textEnd, c1)
    | 'n' => .ok (.char '\n' false, c1)
    | 't' => .ok (.char '\t' false, c1)
    | 'r' => .ok (.char '\r' false, c1)
    | 'f' => .ok (.char (Char.ofNat 12) false, c1)
    | 'v' => .ok (.char (Char.ofNat 11) false, c1)
    | 'a' => .ok (.char (Char.ofNat 7) false, c1)
    | 'x' | 'u' | 'U' =>
      let width := if x = 'x' then 2 else if x = 'u' then 4 else 8
      match more with
      | '{' :: body =>
        let digits := body.takeWhile (· ≠ '}')
        match body.drop digits.length, hexChar? digits with
        | '}' :: _, some ch => .ok (.char ch false, c.advance (digits.length + 3))
        | _, _ => .error ⟨"invalid hexadecimal literal", start, 1⟩
      | _ =>
        match hexChar? (more.take width) with
        | some ch => if (more.take width).length = width then .ok (.char ch (x == 'x'), c.advance (width + 1))
          else .error ⟨"invalid hexadecimal literal", start, 1⟩
        | none => .error ⟨"invalid hexadecimal literal", start, 1⟩
    | _ =>
      if !x.isAlphanum && x.toNat < 0x80 then .ok (.char x false, c1)
      else .error ⟨"unrecognized escape sequence", start, 1⟩

/-- A POSIX class by name, of ASCII characters. -/
def posixClass : String → List ClassItem
  | "alpha" => [.range 'a' 'z', .range 'A' 'Z']
  | "digit" => [.range '0' '9']
  | "alnum" => [.range 'a' 'z', .range 'A' 'Z', .range '0' '9']
  | "upper" => [.range 'A' 'Z']
  | "lower" => [.range 'a' 'z']
  | "space" => [.range ' ' ' ', .range '\t' '\r']
  | "word" => [.range 'a' 'z', .range 'A' 'Z', .range '0' '9', .range '_' '_']
  | "xdigit" => [.range '0' '9', .range 'a' 'f', .range 'A' 'F']
  | "punct" => [.range '!' '/', .range ':' '@', .range '[' '`', .range '{' '~']
  | _ => []

/-- The items of a bracketed class read so far, and the first that the flags refuse. -/
structure ClassRead where
  items : List ClassItem
  refusal : Option ParseError

def ClassRead.add (r : ClassRead) (items : List ClassItem) : ClassRead := ⟨r.items ++ items, r.refusal⟩

def ClassRead.refuse (r : ClassRead) (e : ParseError) : ClassRead :=
  ⟨r.items, r.refusal.orElse fun _ => some e⟩

/-- Reads the items of a bracketed class up to its `]`; the first `]` is a literal. Without
Unicode a member written as a character must be ASCII. -/
def parseClassItems (open_ : Nat) (unicode : Bool) : Nat → Bool → Cursor → ClassRead →
    ParseM (ClassRead × Cursor)
  | 0, _, _, _ => .error ⟨"unclosed character class", open_, 1⟩
  | fuel + 1, first, c, acc =>
    match c.rest with
    | [] => .error ⟨"unclosed character class", open_, 1⟩
    | ']' :: _ =>
      if first then parseClassItems open_ unicode fuel false (c.advance 1) (acc.add [.range ']' ']'])
      else .ok (acc, c.advance 1)
    | '[' :: ':' :: more =>
      let name := more.takeWhile (· ≠ ':')
      match more.drop name.length with
      | ':' :: ']' :: _ =>
        let (negated, name) := match name with
          | '^' :: n => (true, n)
          | n => (false, n)
        let items := posixClass (String.ofList name)
        let items := if negated then complement items else items
        parseClassItems open_ unicode fuel false
          (c.advance (name.length + 4 + (if negated then 1 else 0))) (acc.add items)
      | _ => parseClassItems open_ unicode fuel false (c.advance 1) (acc.add [.range '[' '['])
    | _ => do
      let (lo, c') ← classChar c
      let acc := refuseWide c c' lo acc
      match lo with
      | .inl item => parseClassItems open_ unicode fuel false c' (acc.add [item])
      | .inr (loChar, _) =>
        match c'.rest with
        | '-' :: next :: _ =>
          if next = ']' then parseClassItems open_ unicode fuel false c' (acc.add [.range loChar loChar])
          else do
            let (hi, c'') ← classChar (c'.advance 1)
            let acc := refuseWide (c'.advance 1) c'' hi acc
            match hi with
            | .inr (hiChar, _) =>
              if hiChar < loChar then
                .error ⟨"invalid character class range, the start must be <= the end", c.pos, 1⟩
              else parseClassItems open_ unicode fuel false c'' (acc.add [.range loChar hiChar])
            | .inl _ => .error ⟨"invalid character class range", c.pos, 1⟩
        | _ => parseClassItems open_ unicode fuel false c' (acc.add [.range loChar loChar])
where
  /-- One member of a class: a class escape, or a character and whether it was a byte escape. -/
  classChar (c : Cursor) : ParseM ((ClassItem ⊕ (Char × Bool)) × Cursor) :=
    match c.rest with
    | '\\' :: _ => do
      match ← parseEscape c.pos (c.advance 1) with
      | (.char ch byte, c') => pure (.inr (ch, byte), c')
      | (.perl p negated, c') => pure (.inl (.perl p negated unicode), c')
      | _ => .error ⟨"unrecognized escape sequence", c.pos, 1⟩
    | ch :: _ => pure (.inr (ch, false), c.advance 1)
    | [] => .error ⟨"unclosed character class", c.pos, 1⟩
  /-- Without Unicode, a member written as a character beyond ASCII is refused. -/
  refuseWide (c c' : Cursor) (member : ClassItem ⊕ (Char × Bool)) (acc : ClassRead) : ClassRead :=
    match member with
    | .inr (ch, false) =>
      if !unicode && 0x80 ≤ ch.toNat then acc.refuse ⟨"Unicode not allowed here", c.pos, c'.pos - c.pos⟩
      else acc
    | _ => acc
  /-- The ranges of characters outside the items, among the ASCII ones and beyond. -/
  complement (items : List ClassItem) : List ClassItem :=
    let inside (n : Nat) := items.any (·.test (Char.ofNat n))
    let (ranges, open__) := (List.range 128).foldl (fun (acc, start) n =>
      if inside n then
        match start with
        | some s => (acc ++ [ClassItem.range (Char.ofNat s) (Char.ofNat (n - 1))], none)
        | none => (acc, none)
      else (acc, start.orElse fun _ => some n)) ([], none)
    ranges ++ (match open__ with
      | some s => [ClassItem.range (Char.ofNat s) (Char.ofNat 0x10FFFF)]
      | none => [ClassItem.range (Char.ofNat 0x80) (Char.ofNat 0x10FFFF)])

def countDigits (cs : List Char) : Option (Nat × Nat) :=
  let ds := cs.takeWhile Char.isDigit
  if ds.isEmpty then none else some (ds.foldl (fun acc d => acc * 10 + (d.toNat - 48)) 0, ds.length)

/-- Reads a counted repetition after its `{`: the bounds and the cursor after `}`. -/
def parseCounted (open_ : Nat) (c : Cursor) : ParseM (Nat × Option Nat × Cursor) :=
  match countDigits c.rest with
  | none => .error ⟨"repetition quantifier expects a valid decimal", open_, 1⟩
  | some (lo, n) =>
    let c := c.advance n
    match c.rest with
    | '}' :: _ => .ok (lo, some lo, c.advance 1)
    | ',' :: '}' :: _ => .ok (lo, none, c.advance 2)
    | ',' :: more =>
      match countDigits more with
      | some (hi, m) =>
        match (c.advance (m + 1)).rest with
        | '}' :: _ =>
          if hi < lo then
            .error ⟨"invalid repetition count range, the start must be <= the end", open_, 1⟩
          else .ok (lo, some hi, c.advance (m + 2))
        | _ => .error ⟨"unclosed counted repetition", open_, 1⟩
      | none => .error ⟨"repetition quantifier expects a valid decimal", open_, 1⟩
    | _ => .error ⟨"unclosed counted repetition", open_, 1⟩

/-- The flags with one letter set to `on`, if it names a flag. -/
def Flags.set (flags : Flags) (on : Bool) : Char → Option Flags
  | 'i' => some { flags with caseless := on }
  | 'm' => some { flags with multiLine := on }
  | 's' => some { flags with dotAll := on }
  | 'x' => some { flags with verbose := on }
  | 'u' => some { flags with unicode := on }
  | 'R' => some { flags with crlf := on }
  | 'U' => some flags
  | _ => none

/-- Reads flags up to `)` or `:`; gives the flags and whether a group follows. `seen` holds the
letters read, the last first; each flag and the `-` may come once. -/
def parseFlags (start : Nat) (flags : Flags) :
    Nat → Bool → List Char → Cursor → ParseM (Flags × Bool × Cursor)
  | 0, _, _, _ => .error ⟨"expected flag but got end of regex", start, 1⟩
  | fuel + 1, on, seen, c =>
    match c.rest with
    | ')' :: _ =>
      if seen.head? = some '-' then .error ⟨"dangling flag negation operator", c.pos - 1, 1⟩
      else .ok (flags, false, c.advance 1)
    | ':' :: _ =>
      if seen.head? = some '-' then .error ⟨"dangling flag negation operator", c.pos - 1, 1⟩
      else .ok (flags, true, c.advance 1)
    | '-' :: _ =>
      if '-' ∈ seen then .error ⟨"flag negation operator repeated", c.pos, 1⟩
      else parseFlags start flags fuel false ('-' :: seen) (c.advance 1)
    | x :: _ =>
      match flags.set on x with
      | none => .error ⟨"unrecognized flag", c.pos, 1⟩
      | some flags' =>
        if x ∈ seen then .error ⟨"duplicate flag", c.pos, 1⟩
        else parseFlags start flags' fuel on (x :: seen) (c.advance 1)
    | [] => .error ⟨"expected flag but got end of regex", c.pos, 1⟩

def alts : List Expr → Expr
  | [] => .empty
  | [r] => r
  | r :: rs => .alt r (alts rs)

def seqs : List Expr → Expr
  | [] => .empty
  | [r] => r
  | r :: rs => .seq r (seqs rs)

/-- What reading a group's body ended at: a `)` or the end of the pattern. -/
inductive Stop where
  | close
  | eof

/-- The piece an escape stands for outside a class, under the flags. -/
def escapePiece (flags : Flags) (start width : Nat) : Escape → Expr
  | .char ch byte =>
    if !flags.unicode && byte && 0x80 ≤ ch.toNat then .refused ⟨invalidUtf8, start, width⟩
    else .literal ch flags.case
  | .perl p negated =>
    if !flags.unicode && negated then .refused ⟨invalidUtf8, start, width⟩
    else .set [.perl p negated flags.unicode] false .exact
  | .textStart => .assert .textStart
  | .textEnd => .assert .textEnd
  | .word look => .assert (.word look flags.unicode)

/-- The piece of a bracketed class under the flags: without Unicode, a class that takes in
characters beyond ASCII is refused. -/
def classPiece (flags : Flags) (start width : Nat) (read : ClassRead) (negated : Bool) : Expr :=
  match read.refusal with
  | some e => .refused e
  | none =>
    if !flags.unicode && read.items.any ClassItem.wide != negated then
      .refused ⟨invalidUtf8, start, width⟩
    else .set read.items negated flags.case

mutual

/-- Reads alternatives up to a `)` or the end. -/
def parseAlternation (fuel : Nat) (flags : Flags) (c : Cursor) :
    ParseM (Expr × Stop × Cursor) :=
  match fuel with
  | 0 => .error ⟨"pattern nests too deeply", c.pos, 1⟩
  | fuel + 1 => parseBranches fuel flags c []

/-- Reads branches after the first, separated by `|`. -/
def parseBranches (fuel : Nat) (flags : Flags) (c : Cursor) (done : List Expr) :
    ParseM (Expr × Stop × Cursor) :=
  match fuel with
  | 0 => .error ⟨"pattern nests too deeply", c.pos, 1⟩
  | fuel + 1 => do
    let (branch, flags, c) ← parseConcat fuel flags c []
    match c.rest with
    | '|' :: _ => parseBranches fuel flags (c.advance 1) (done ++ [branch])
    | ')' :: _ => pure (alts (done ++ [branch]), .close, c.advance 1)
    | _ => pure (alts (done ++ [branch]), .eof, c)

/-- Reads pieces up to a `|`, a `)` or the end; gives the flags in force at its end. -/
def parseConcat (fuel : Nat) (flags : Flags) (c : Cursor) (acc : List Expr) :
    ParseM (Expr × Flags × Cursor) :=
  match fuel with
  | 0 => .error ⟨"pattern nests too deeply", c.pos, 1⟩
  | fuel + 1 =>
    let c := skipVerbose flags c
    match c.rest with
    | [] | '|' :: _ | ')' :: _ => pure (seqs acc, flags, c)
    | '*' :: _ | '+' :: _ | '?' :: _ =>
      match acc.getLast? with
      | none => .error ⟨"repetition operator missing expression", c.pos, 1⟩
      | some last =>
        let (lo, hi) := match c.rest with
          | '*' :: _ => (0, none)
          | '+' :: _ => (1, none)
          | _ => (0, some 1)
        let c := c.advance 1
        let c := match c.rest with
          | '?' :: _ => c.advance 1
          | _ => c
        parseConcat fuel flags c (acc.dropLast ++ [.rep last lo hi])
    | '{' :: _ =>
      match acc.getLast? with
      | none => .error ⟨"repetition operator missing expression", c.pos, 1⟩
      | some last => do
        let (lo, hi, c') ← parseCounted c.pos (c.advance 1)
        let c' := match c'.rest with
          | '?' :: _ => c'.advance 1
          | _ => c'
        parseConcat fuel flags c' (acc.dropLast ++ [.rep last lo hi])
    | '(' :: '?' :: more =>
      match more with
      | [] => .error ⟨"unclosed group", c.pos, 1⟩
      | '=' :: _ | '!' :: _ =>
        .error ⟨"look-around, including look-ahead and look-behind, is not supported", c.pos, 3⟩
      | '<' :: '=' :: _ | '<' :: '!' :: _ =>
        .error ⟨"look-around, including look-ahead and look-behind, is not supported", c.pos, 4⟩
      | ')' :: _ => .error ⟨"repetition operator missing expression", c.pos + 1, 1⟩
      | 'P' :: '<' :: _ | '<' :: _ => do
        let skip := if more.head? = some 'P' then 4 else 3
        let name := (c.rest.drop skip).takeWhile (· ≠ '>')
        if name.isEmpty then .error ⟨"empty capture group name", c.pos, 1⟩
        let (body, stop, c') ← parseAlternation fuel flags (c.advance (skip + name.length + 1))
        match stop with
        | .close => parseConcat fuel flags c' (acc ++ [body])
        | .eof => .error ⟨"unclosed group", c.pos, 1⟩
      | _ => do
        let (inner, grouped, c') ← parseFlags c.pos flags (more.length + 1) true [] (c.advance 2)
        if grouped then
          let (body, stop, c'') ← parseAlternation fuel inner c'
          match stop with
          | .close => parseConcat fuel flags c'' (acc ++ [body])
          | .eof => .error ⟨"unclosed group", c.pos, 1⟩
        else parseConcat fuel inner c' acc
    | '(' :: _ => do
      let (body, stop, c') ← parseAlternation fuel flags (c.advance 1)
      match stop with
      | .close => parseConcat fuel flags c' (acc ++ [body])
      | .eof => .error ⟨"unclosed group", c.pos, 1⟩
    | '[' :: more => do
      let (negated, skip) := match more with
        | '^' :: _ => (true, 2)
        | _ => (false, 1)
      let (read, c') ← parseClassItems c.pos flags.unicode (c.rest.length + 1) true (c.advance skip) ⟨[], none⟩
      parseConcat fuel flags c' (acc ++ [classPiece flags c.pos (c'.pos - c.pos) read negated])
    | '.' :: _ =>
      let piece := if flags.unicode then .any flags.dotAll flags.crlf else .refused ⟨invalidUtf8, c.pos, 1⟩
      parseConcat fuel flags (c.advance 1) (acc ++ [piece])
    | '^' :: _ =>
      let a := if flags.multiLine then Assertion.lineStart flags.crlf else .textStart
      parseConcat fuel flags (c.advance 1) (acc ++ [.assert a])
    | '$' :: _ =>
      let a := if flags.multiLine then Assertion.lineEnd flags.crlf else .textEnd
      parseConcat fuel flags (c.advance 1) (acc ++ [.assert a])
    | '\\' :: _ => do
      let (e, c') ← parseEscape c.pos (c.advance 1)
      parseConcat fuel flags c' (acc ++ [escapePiece flags c.pos (c'.pos - c.pos) e])
    | ch :: _ => parseConcat fuel flags (c.advance 1) (acc ++ [.literal ch flags.case])

end

/-- Reads a whole pattern: a syntax error anywhere comes before a piece the flags refuse. -/
def parse (pattern : String) : ParseM Expr := do
  let cs := pattern.toList
  let (r, stop, c) ← parseAlternation (4 * cs.length + 8) Flags.initial ⟨cs, 0⟩
  match stop with
  | .close => .error ⟨"unopened group", c.pos - 1, 1⟩
  | .eof =>
    match r.refusal with
    | some e => .error e
    | none => pure r

/-- The message of a refused pattern: the pattern, carets under the place, and the reason. -/
def ParseError.render (e : ParseError) (pattern : String) : String :=
  "regex parse error:\n    " ++ pattern ++ "\n    " ++
    String.ofList (List.replicate e.position ' ' ++ List.replicate (max e.width 1) '^') ++
    "\nerror: " ++ e.message

def sizeLimit : Nat := 10 * 1024 * 1024

def tooBigMessage : String := "Compiled regex exceeds size limit of " ++ toString sizeLimit ++ " bytes."

inductive CompileError where
  | unreadable (e : ParseError)
  | tooBig

def CompileError.render (pattern : String) : CompileError → String
  | .unreadable e => e.render pattern
  | .tooBig => tooBigMessage

/-- Compiles a pattern whose program takes `size pattern` bytes: it must read, and its program
must fit the limit. -/
def compile (size : String → Nat) (pattern : String) : Except CompileError Expr :=
  match parse pattern with
  | .error e => .error (.unreadable e)
  | .ok r => if sizeLimit < size pattern then .error .tooBig else .ok r

/-- Whether two characters are the same, under the way letters compare. -/
def sameChar (mode : Case) (a b : Char) : Bool :=
  a == b || match mode with
    | .exact => false
    | .ascii => a.toLower == b.toLower
    | .unicode => (foldMates a).contains b

def testSet (items : List ClassItem) (negated : Bool) (mode : Case) (c : Char) : Bool :=
  let hit := items.any (·.test c) || match mode with
    | .exact => false
    | .ascii => items.any (·.test c.toLower) || items.any (·.test c.toUpper)
    | .unicode => (foldMates c).any fun d => items.any (·.test d)
  hit != negated

/-- Whether an assertion holds before position `i` of the text. -/
def holds (text : Array Char) (i : Nat) : Assertion → Bool
  | .textStart => i = 0
  | .textEnd => i = text.size
  | .lineStart crlf =>
    i = 0 || before = '\n' || (crlf && before = '\r' && text.getD i ' ' != '\n')
  | .lineEnd crlf =>
    i = text.size || (crlf && after = '\r') || (after = '\n' && !(crlf && 0 < i && before = '\r'))
  | .word look unicode =>
    look.holds (0 < i && Perl.word.test unicode before) (i < text.size && Perl.word.test unicode after)
where
  before : Char := text.getD (i - 1) ' '
  after : Char := text.getD i ' '

/-- Whether the pattern matches at position `i`, with the rest accepted by `k`; at most `fuel`
steps deep. -/
def matchAt (text : Array Char) : Nat → Expr → Nat → (Nat → Bool) → Bool
  | 0, _, _, _ => false
  | fuel + 1, r, i, k =>
    match r with
    | .empty => k i
    | .literal c mode => i < text.size && sameChar mode (text.getD i ' ') c && k (i + 1)
    | .any dotAll crlf =>
      let ch := text.getD i ' '
      i < text.size && (dotAll || (ch != '\n' && !(crlf && ch = '\r'))) && k (i + 1)
    | .set items negated mode =>
      i < text.size && testSet items negated mode (text.getD i ' ') && k (i + 1)
    | .assert a => holds text i a && k i
    | .seq a b => matchAt text fuel a i fun j => matchAt text fuel b j k
    | .alt a b => matchAt text fuel a i k || matchAt text fuel b i k
    | .rep r lo hi =>
      if 0 < lo then
        matchAt text fuel r i fun j => matchAt text fuel (.rep r (lo - 1) (hi.map (· - 1))) j k
      else if hi = some 0 then k i
      else
        (matchAt text fuel r i fun j =>
          i < j && matchAt text fuel (.rep r 0 (hi.map (· - 1))) j k) || k i
    | .refused _ => false

/-- Whether the pattern matches somewhere in the text. -/
def Expr.isMatch (r : Expr) (text : String) : Bool :=
  let chars := text.toList.toArray
  let fuel := (chars.size + 2) * (r.size + 2) * 4
  (List.range (chars.size + 1)).any fun i => matchAt chars fuel r i fun _ => true

/-- Whether a pattern lets `.` match line feeds from its start: it opens with flags that set
`s`. -/
def opensDotAll (pattern : String) : Bool :=
  match pattern.toList with
  | '(' :: '?' :: rest =>
    let flags := rest.takeWhile fun c => c ≠ ')' && c ≠ ':'
    (flags.takeWhile (· ≠ '-')).contains 's'
  | _ => false

end Regex

end Mooring.Text

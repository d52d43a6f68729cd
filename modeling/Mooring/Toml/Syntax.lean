namespace Mooring.Toml

abbrev Bytes := List UInt8

/-- Something a reader expected. -/
inductive Expectation where
  | char (c : Char)
  | literal (s : String)
  | description (s : String)

/-- What a failure passed through. -/
inductive Context where
  | label (s : String)
  | expected (e : Expectation)

/-- Where and why reading failed. -/
structure SyntaxError where
  /-- The number of bytes left unread where the failure happened. -/
  remaining : Nat
  contexts : List Context
  cause : Option String

/-- A failure: hard ones end the reading, soft ones let an alternative be tried. -/
structure ReadFailure where
  hard : Bool
  error : SyntaxError

abbrev Reader := StateT Bytes (Except ReadFailure)

def Expectation.describe : Expectation → String
  | .char '\n' => "newline"
  | .char '`' => "'`'"
  | .char c =>
    if c.toNat < 0x20 || c.toNat = 0x7f then
      "`" ++ (match c with
        | '\t' => "\\t"
        | '\r' => "\\r"
        | c => "\\u\x7b" ++ String.ofList (Nat.toDigits 16 c.toNat) ++ "\x7d") ++ "`"
    else "`" ++ String.singleton c ++ "`"
  | .literal s => "`" ++ s ++ "`"
  | .description s => s

/-- The message of a failure: `invalid` and the first label, the expectations, the cause, each
on its own line. -/
def SyntaxError.message (e : SyntaxError) : String :=
  let label := e.contexts.findSome? fun
    | .label s => some s
    | _ => none
  let expected := e.contexts.filterMap fun
    | .expected x => some x.describe
    | _ => none
  let lines := (label.map fun l => ["invalid " ++ l]).getD [] ++
    (if expected.isEmpty then [] else ["expected " ++ ", ".intercalate expected]) ++
    e.cause.toList
  "\n".intercalate lines

namespace Reader

variable {α β : Type}

/-- A soft failure here. -/
def fail (contexts : List Context) (cause : Option String) : Reader α := do
  let rest ← get
  throw ⟨false, ⟨rest.length, contexts, cause⟩⟩

/-- Any failure of `r` becomes hard. -/
def cut (r : Reader α) : Reader α := fun s =>
  match r s with
  | .error f => .error { f with hard := true }
  | ok => ok

/-- Adds a context to any failure of `r`. -/
def context (c : Context) (r : Reader α) : Reader α := fun s =>
  match r s with
  | .error f => .error { f with error := { f.error with contexts := f.error.contexts ++ [c] } }
  | ok => ok

def label (s : String) (r : Reader α) : Reader α := context (.label s) r

def expecting (e : Expectation) (r : Reader α) : Reader α := context (.expected e) r

/-- `r`, or nothing when it fails softly, consuming nothing then. -/
def optional (r : Reader α) : Reader (Option α) := fun s =>
  match r s with
  | .ok (a, s') => .ok (some a, s')
  | .error f => if f.hard then .error f else .ok (none, s)

/-- `r`, or `q` from the same place when `r` fails softly; the last failure is reported. -/
def orElse (r q : Reader α) : Reader α := fun s =>
  match r s with
  | .error f => if f.hard then .error f else q s
  | ok => ok

/-- Runs `r` without consuming anything. -/
def lookahead (r : Reader α) : Reader α := fun s =>
  match r s with
  | .ok (a, _) => .ok (a, s)
  | .error f => .error f

/-- Checks the result of `r`; a refusal is a soft failure where `r` started, with its cause. -/
def tryMap (r : Reader α) (f : α → Except String β) : Reader β := fun s =>
  match r s with
  | .ok (a, s') =>
    match f a with
    | .ok b => .ok (b, s')
    | .error cause => .error ⟨false, ⟨s.length, [], some cause⟩⟩
  | .error f => .error f

/-- Checks the result of `r`; a refusal is a hard failure where `r` started, with its cause,
while a failure of `r` itself stays as it is. -/
def tryMapHard (r : Reader α) (f : α → Except String β) : Reader β := fun s =>
  match r s with
  | .ok (a, s') =>
    match f a with
    | .ok b => .ok (b, s')
    | .error cause => .error ⟨true, ⟨s.length, [], some cause⟩⟩
  | .error f => .error f

/-- The bytes that `r` consumes. -/
def recognize (r : Reader α) : Reader Bytes := fun s =>
  match r s with
  | .ok (_, s') => .ok (s.take (s.length - s'.length), s')
  | .error f => .error f

/-- A run of at least one byte that passes `p`. -/
def takeWhile1 (p : UInt8 → Bool) : Reader Bytes := do
  let rest ← get
  let run := rest.takeWhile p
  if run.isEmpty then fail [] none
  set (rest.drop run.length)
  return run

/-- Checks the result of `r`; a refusal is a soft failure where `r` started. -/
def verify (r : Reader α) (ok : α → Bool) : Reader α := fun s =>
  match r s with
  | .ok (a, s') => if ok a then .ok (a, s') else .error ⟨false, ⟨s.length, [], none⟩⟩
  | .error f => .error f

/-- Checks the result of `r`; a refusal is a hard failure where `r` started, without a cause. -/
def verifyHard (r : Reader α) (ok : α → Bool) : Reader α := fun s =>
  match r s with
  | .ok (a, s') => if ok a then .ok (a, s') else .error ⟨true, ⟨s.length, [], none⟩⟩
  | .error f => .error f

/-- Any failure of `r` is placed where `r` started. -/
def atStart (r : Reader α) : Reader α := fun s =>
  match r s with
  | .error f => .error { f with error := { f.error with remaining := s.length } }
  | ok => ok

def peek : Reader (Option UInt8) := do return (← get).head?

/-- The next two bytes, not consumed. -/
def peekTwo : Reader (Option (UInt8 × UInt8)) := do
  match ← get with
  | a :: b :: _ => return some (a, b)
  | _ => return none

/-- The next byte. -/
def any : Reader UInt8 := do
  match ← get with
  | b :: rest => set rest; return b
  | [] => fail [] none

/-- A byte that passes `p`, consuming nothing on failure. -/
def oneOf (p : UInt8 → Bool) : Reader UInt8 := do
  match ← get with
  | b :: rest => if p b then set rest; return b else fail [] none
  | [] => fail [] none

def byte (b : UInt8) : Reader Unit := do let _ ← oneOf (· == b)

/-- Given bytes, consuming nothing on failure. -/
def literal (bs : Bytes) : Reader Unit := do
  let rest ← get
  if bs.isPrefixOf rest then set (rest.drop bs.length) else fail [] none

/-- The longest run of bytes that pass `p`. -/
def takeWhile (p : UInt8 → Bool) : Reader Bytes := do
  let rest ← get
  let run := rest.takeWhile p
  set (rest.drop run.length)
  return run

/-- A run of at least `least` bytes that pass `p`, at most `most`. -/
def takeBetween (least most : Nat) (p : UInt8 → Bool) : Reader Bytes := do
  let rest ← get
  let run := (rest.takeWhile p).take most
  if run.length < least then fail [] none
  set (rest.drop run.length)
  return run

def eof : Reader Unit := do
  if (← get).isEmpty then return () else fail [] none

/-- Runs `r` repeatedly until it fails softly or consumes nothing, at most `fuel` times. -/
def many (r : Reader α) : Nat → Reader (List α)
  | 0 => return []
  | fuel + 1 => fun s =>
    match r s with
    | .ok (a, s') =>
      if s'.length < s.length then
        match many r fuel s' with
        | .ok (as, s'') => .ok (a :: as, s'')
        | .error f => .error f
      else .ok ([a], s')
    | .error f => if f.hard then .error f else .ok ([], s)

/-- Items read by `p` with `sep` between them, none at all when the first fails softly; a
separator whose item fails softly is left unread. -/
def separated (p : Reader α) (sep : Reader Unit) : Reader (List α) := fun s =>
  match optional p s with
  | .ok (none, s') => .ok ([], s')
  | .ok (some a, s') =>
    match many (do sep; p) (s'.length + 1) s' with
    | .ok (as, s'') => .ok (a :: as, s'')
    | .error f => .error f
  | .error f => .error f

end Reader

end Mooring.Toml

import Mooring.Url.Host
namespace Mooring.Url

/-- The schemes read here. -/
inductive Scheme where
  | http
  | https
  deriving DecidableEq

namespace Scheme

def toText : Scheme → String
  | .http => "http"
  | .https => "https"

def defaultPort : Scheme → Nat
  | .http => 80
  | .https => 443

end Scheme

/-- A web address, each part as written, percent-encoded. -/
structure WebUrl where
  scheme : Scheme
  username : String
  password : String
  host : Host
  port : Option Nat
  /-- The segments of the path; there is always at least one. -/
  path : List String
  query : Option String
  fragment : Option String

/-- Bytes that are percent-encoded everywhere: controls, delete and all non-ASCII bytes. -/
def isControl (b : Nat) : Bool := b < 0x20 || 0x7E < b

def inFragmentSet (b : Nat) : Bool := isControl b || [0x20, 0x22, 0x3C, 0x3E, 0x60].contains b

def inQuerySet (b : Nat) : Bool := isControl b || [0x20, 0x22, 0x23, 0x3C, 0x3E].contains b

def inSpecialQuerySet (b : Nat) : Bool := inQuerySet b || b = 0x27

def inPathSet (b : Nat) : Bool := inQuerySet b || [0x3F, 0x60, 0x7B, 0x7D].contains b

def inUserinfoSet (b : Nat) : Bool :=
  inPathSet b || [0x2F, 0x3A, 0x3B, 0x3D, 0x40, 0x5B, 0x5C, 0x5D, 0x5E, 0x7C].contains b

def hexUpper (d : Nat) : Char :=
  if d < 10 then Char.ofNat (48 + d) else Char.ofNat (55 + d)

/-- Writes the UTF-8 bytes of the text, each byte of the set as `%` and two digits. -/
def percentEncode (inSet : Nat → Bool) (cs : List Char) : String :=
  String.ofList ((String.ofList cs).toUTF8.toList.flatMap fun b =>
    if inSet b.toNat then ['%', hexUpper (b.toNat / 16), hexUpper (b.toNat % 16)]
    else [Char.ofNat b.toNat])

def isSingleDot (seg : String) : Bool :=
  seg = "." || seg.toLower = "%2e"

/-- A path segment that means the parent. -/
def isDoubleDot (seg : String) : Bool :=
  let s := seg.toLower
  s = ".." || s = ".%2e" || s = "%2e." || s = "%2e%2e"

/-- Adds the segments of a path, each but the last followed by a slash. -/
def addSegments (path : List String) : List String → List String
  | [] => path
  | [seg] =>
    if isDoubleDot seg then path.dropLast ++ [""]
    else if isSingleDot seg then path ++ [""]
    else path ++ [seg]
  | seg :: rest@(_ :: _) =>
    if isDoubleDot seg then addSegments path.dropLast rest
    else if isSingleDot seg then addSegments path rest
    else addSegments (path ++ [seg]) rest

/-- Splits at every character the predicate holds for. -/
def splitWhere (p : Char → Bool) (cs : List Char) : List (List Char) :=
  let (last, done) := cs.foldl (fun (cur, done) c =>
    if p c then ([], cur.reverse :: done) else (c :: cur, done)) ([], [])
  (last.reverse :: done).reverse

/-- The text before the last occurrence of `c`, and after it, if it occurs. -/
def splitLast (c : Char) (cs : List Char) : Option (List Char × List Char) :=
  match (cs.reverse.span (· ≠ c)) with
  | (_, []) => none
  | (after, _ :: before) => some (before.reverse, after.reverse)

/-- The host text: up to the first `:` outside brackets. -/
def hostPart (cs : List Char) : List Char × List Char :=
  let rec go (inside : Bool) (acc : List Char) : List Char → List Char × List Char
    | [] => (acc.reverse, [])
    | c :: rest =>
      if c = ':' && !inside then (acc.reverse, c :: rest)
      else go (if c = '[' then true else if c = ']' then false else inside) (c :: acc) rest
  go false [] cs

/-- Reads a port: ASCII digits up to 65535. -/
def parsePort (cs : List Char) : Except UrlError (Option Nat) :=
  if !cs.all Char.isDigit then .error .invalidPort
  else
    let (value, tooBig) := cs.foldl (fun (v, tooBig) c =>
      let v := v * 10 + (c.toNat - 48)
      (v, tooBig || 65535 < v)) (0, false)
    if tooBig then .error .invalidPort
    else .ok (if cs.isEmpty then none else some value)

namespace WebUrl

/-- Reads a web address of the scheme from the text after its colon. -/
def parse (scheme : Scheme) (text : String) : Except UrlError WebUrl := do
  let s := (text.toList.reverse.dropWhile (·.toNat ≤ 0x20)).reverse
  let s := s.filter fun c => c ≠ '\t' && c ≠ '\n' && c ≠ '\r'
  let s := s.dropWhile fun c => c = '/' || c = '\\'
  let authority := s.takeWhile fun c => !"/\\?#".toList.contains c
  let rest := s.drop authority.length
  let (userinfo, hostPort) := (splitLast '@' authority).getD ([], authority)
  let (user, pass) := match userinfo.span (· ≠ ':') with
    | (user, _ :: pass) => (user, pass)
    | (user, []) => (user, [])
  let (hostText, portText) := hostPart hostPort
  if hostText.isEmpty then throw .emptyHost
  let host ← Host.parse (String.ofList hostText)
  let port ← match portText with
    | ':' :: digits => parsePort digits
    | _ => pure none
  let port := port.filter (· ≠ scheme.defaultPort)
  let rest := match rest with
    | '/' :: more | '\\' :: more => more
    | more => more
  let pathText := rest.takeWhile fun c => c ≠ '?' && c ≠ '#'
  let rest := rest.drop pathText.length
  let segments := (splitWhere (fun c => c = '/' || c = '\\') pathText).map
    (percentEncode inPathSet)
  let (query, rest) := match rest with
    | '?' :: more =>
      let q := more.takeWhile (· ≠ '#')
      (some (percentEncode inSpecialQuerySet q), more.drop q.length)
    | more => (none, more)
  let fragment := match rest with
    | '#' :: more => some (percentEncode inFragmentSet more)
    | _ => none
  return ⟨scheme, percentEncode inUserinfoSet user, percentEncode inUserinfoSet pass, host, port,
    addSegments [] segments, query, fragment⟩

/-- The address written out. -/
def toText (u : WebUrl) : String :=
  let userinfo :=
    if u.username.isEmpty && u.password.isEmpty then ""
    else u.username ++ (if u.password.isEmpty then "" else ":" ++ u.password) ++ "@"
  u.scheme.toText ++ "://" ++ userinfo ++ u.host.toText ++
    (match u.port with | some p => ":" ++ toString p | none => "") ++
    String.join (u.path.map ("/" ++ ·)) ++
    (match u.query with | some q => "?" ++ q | none => "") ++
    (match u.fragment with | some f => "#" ++ f | none => "")

end WebUrl

end Mooring.Url

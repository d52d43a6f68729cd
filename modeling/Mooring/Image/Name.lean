import Mooring.Text.Blank
import Mooring.Text.Pieces
import Mooring.Text.WordChar
namespace Mooring.Image

open Mooring.Text

/-- A parsed image reference. -/
structure ImageName where
  registry : Option String
  user : Option String
  /-- The repository with its user, without registry and tag. -/
  repository : String
  tag : Option String
  digest : Option String
  deriving DecidableEq

/-- Why a text is not an image reference. -/
inductive ImageNameError where
  /-- Blank, or without a name before its tag. -/
  | malformed (name : String)
  /-- Parts that break the reference grammar, one problem per part. -/
  | invalid (name : String) (problems : List String)
  deriving DecidableEq

namespace ImageNameError

def message : ImageNameError → String
  | .malformed name => "'" ++ name ++ "' is not a proper image name ([registry/][repo][:port])"
  | .invalid name problems =>
    "Given Docker name '" ++ name ++ "' is invalid: " ++ joinStrings "; " problems

def kind : ImageNameError → String
  | .malformed _ => "Malformed"
  | .invalid _ _ => "Invalid"

end ImageNameError

def isComponentChar (c : Char) : Bool := ('a' ≤ c && c ≤ 'z') || c.isDigit

def isComponentSeparator (sep : List Char) : Bool :=
  sep = ['.'] || sep = ['_'] || sep = ['_', '_'] || (sep ≠ [] && sep.all (· = '-'))

/-- Reading a component: after a run of component characters, or inside a separator run. -/
inductive ComponentState where
  | start
  | run
  | separator (sep : List Char)

/-- A component: runs of lowercase letters and digits joined by separators. -/
def isComponent (s : List Char) : Bool :=
  go .start s
where
  go : ComponentState → List Char → Bool
    | .run, [] => true
    | _, [] => false
    | .start, c :: cs => isComponentChar c && go .run cs
    | .run, c :: cs => if isComponentChar c then go .run cs else go (.separator [c]) cs
    | .separator sep, c :: cs =>
      if isComponentChar c then isComponentSeparator sep && go .run cs
      else go (.separator (sep ++ [c])) cs

def isRepositoryPath (s : List Char) : Bool := (splitOnChar '/' s).all isComponent

/-- A domain label: ASCII letters, digits and inner dashes. -/
def isDomainLabel (l : List Char) : Bool :=
  match l.head?, l.getLast? with
  | some a, some b => a.isAlphanum && b.isAlphanum && l.all (fun c => c.isAlphanum || c = '-')
  | _, _ => false

/-- A domain of dot-separated labels, with an optional `:` and port digits. -/
def isDomain (s : List Char) : Bool :=
  let labelsOk (h : List Char) := (splitOnChar '.' h).all isDomainLabel
  match splitOnceChar ':' s with
  | none => labelsOk s
  | some (host, port) => labelsOk host && port ≠ [] && port.all Char.isDigit

/-- A tag: a word character, then at most 127 word characters, dots and dashes. -/
def isTag (s : List Char) : Bool :=
  match s with
  | [] => false
  | c :: rest =>
    isWordChar c && rest.length ≤ 127 && rest.all (fun d => isWordChar d || d = '.' || d = '-')

/-- A digest: `sha256:` and at least 32 lowercase letters and digits. -/
def isDigest (s : List Char) : Bool :=
  match stripPrefix? "sha256:".toList s with
  | some hex => hex.length ≥ 32 && hex.all isComponentChar
  | none => false

/-- Whether the rest after a head is a colon and a non-empty tag without `:` or `/`. -/
def tagTail? : List Char → Option (List Char)
  | ':' :: t => if t ≠ [] ∧ t.all (fun c => c ≠ ':' && c ≠ '/') then some t else none
  | _ => none

/-- Splits off the tag: the shortest non-empty head without a line feed whose rest is empty or
a tag tail. -/
def splitTag : List Char → Option (List Char × Option (List Char))
  | [] => none
  | c :: cs => if c = '\n' then none else go [c] cs
where
  go (head : List Char) : List Char → Option (List Char × Option (List Char))
    | [] => some (head.reverse, none)
    | c :: cs =>
      match tagTail? (c :: cs) with
      | some t => some (head.reverse, some t)
      | none => if c = '\n' then none else go (c :: head) cs

def looksLikeRegistry (p : List Char) : Bool := p.contains '.' || p.contains ':'

namespace ImageName

/-- The repository without its user prefix. -/
def simpleName (n : ImageName) : String :=
  match n.user with
  | some u =>
    match stripPrefix? u.toList n.repository.toList with
    | some ('/' :: rest) => String.ofList rest
    | _ => n.repository
  | none => n.repository

def hasRegistry (n : ImageName) : Bool :=
  match n.registry with
  | some r => !r.isEmpty
  | none => false

/-- Registry (its own, else the fallback) and repository, without tag. -/
def nameWithoutTag (n : ImageName) (fallback : Option String) : String :=
  match n.registry.or fallback with
  | some r => r ++ "/" ++ n.repository
  | none => n.repository

def fullName (n : ImageName) (fallback : Option String) : String :=
  n.nameWithoutTag fallback ++ (n.tag.map (":" ++ ·)).getD "" ++ (n.digest.map ("@" ++ ·)).getD ""

/-- The parts that break the grammar, in the order registry, image, user, tag, digest. -/
def problems (n : ImageName) : List String :=
  let checks : List (String × (List Char → Bool) × Option String) :=
    [("registry", isDomain, n.registry), ("image", isRepositoryPath, some n.simpleName),
      ("user", isComponent, n.user), ("tag", isTag, n.tag), ("digest", isDigest, n.digest)]
  checks.filterMap fun (label, ok, v) =>
    v.bind fun v => if ok v.toList then none
      else some (label ++ " part '" ++ v ++ "' doesn't match allowed pattern")

/-- The parts of a reference before validation, from its pieces. -/
def ofPieces (pieces : List (List Char)) (tag digest : Option String) : ImageName :=
  let str := String.ofList
  let joined := str (joinWith ['/'] pieces)
  match pieces with
  | [single] => ⟨none, none, str single, tag, digest⟩
  | [first, second] =>
    if looksLikeRegistry first then ⟨some (str first), none, str second, tag, digest⟩
    else ⟨none, some (str first), joined, tag, digest⟩
  | first :: second :: rest =>
    if looksLikeRegistry first then
      ⟨some (str first), some (str second), str (joinWith ['/'] (second :: rest)), tag, digest⟩
    else ⟨none, some (str first), joined, tag, digest⟩
  | [] => ⟨none, none, "", tag, digest⟩

/-- Reads a reference, the given tag replacing the one it carries. -/
def withTag (text : String) (givenTag : Option String) : Except ImageNameError ImageName :=
  let malformed := ImageNameError.malformed text
  if isBlankText text then .error malformed
  else
    let cs := text.toList
    let (rest, digest) :=
      if contains "@sha256".toList cs then
        match splitOnceChar '@' cs with
        | some (a, b) => (a, some (String.ofList b))
        | none => (cs, none)
      else (cs, none)
    match splitTag rest with
    | none => .error malformed
    | some (head, ownTag) =>
      let tag := givenTag.or (ownTag.map String.ofList)
      let tag := if tag.isNone && digest.isNone then some "latest" else tag
      let pieces := (splitOnChar '/' head).map fun p => (trim (String.ofList p)).toList
      let name := ofPieces pieces tag digest
      match name.problems with
      | [] => .ok name
      | ps => .error (.invalid (name.fullName none) ps)

def parse (text : String) : Except ImageNameError ImageName := withTag text none

end ImageName

end Mooring.Image

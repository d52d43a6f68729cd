namespace Mooring.Text

/-- The pieces between the occurrences of a separator. -/
def splitOnChar (sep : Char) : List Char → List (List Char)
  | [] => [[]]
  | c :: rest =>
    if c = sep then [] :: splitOnChar sep rest
    else match splitOnChar sep rest with
      | first :: more => (c :: first) :: more
      | [] => [[c]]

/-- The text before and after the first occurrence of a character. -/
def splitOnceChar (sep : Char) : List Char → Option (List Char × List Char)
  | [] => none
  | c :: rest =>
    if c = sep then some ([], rest)
    else (splitOnceChar sep rest).map fun (a, b) => (c :: a, b)

def rsplitOnceChar (sep : Char) (s : List Char) : Option (List Char × List Char) :=
  (splitOnceChar sep s.reverse).map fun (a, b) => (b.reverse, a.reverse)

/-- The rest of a text after a prefix. -/
def stripPrefix? : List Char → List Char → Option (List Char)
  | [], s => some s
  | _ :: _, [] => none
  | p :: ps, c :: cs => if p = c then stripPrefix? ps cs else none

/-- The text before and after the first occurrence of a non-empty pattern. -/
def splitOnce (pat : List Char) : List Char → Option (List Char × List Char)
  | [] => if pat = [] then some ([], []) else none
  | c :: rest =>
    match stripPrefix? pat (c :: rest) with
    | some after => some ([], after)
    | none => (splitOnce pat rest).map fun (a, b) => (c :: a, b)

def contains (pat s : List Char) : Bool := (splitOnce pat s).isSome

/-- Replaces every occurrence of a non-empty pattern, left to right. -/
def replaceAll (pat rep : List Char) : List Char → List Char
  | [] => []
  | c :: rest =>
    match pat with
    | [] => c :: replaceAll pat rep rest
    | p :: ps =>
      if (p :: ps).isPrefixOf (c :: rest) then rep ++ replaceAll pat rep (rest.drop ps.length)
      else c :: replaceAll pat rep rest
  termination_by s => s.length
  decreasing_by all_goals simp; try omega

/-- Joins pieces with a separator between each two. -/
def joinWith (sep : List Char) : List (List Char) → List Char
  | [] => []
  | [p] => p
  | p :: ps => p ++ sep ++ joinWith sep ps

def joinStrings (sep : String) (xs : List String) : String :=
  String.ofList (joinWith sep.toList (xs.map String.toList))

end Mooring.Text

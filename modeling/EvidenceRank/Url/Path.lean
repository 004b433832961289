import EvidenceRank.Url.Basic

/-!
# Paths of URLs

A path is read segment by segment: what may not stand in a segment is escaped, and steps up are
taken.
-/

namespace EvidenceRank.Url

/-- The character is a slash; in the common schemes a backslash is one too. -/
def isSlash (common : Bool) (c : Char) : Bool := c == '/' || (common && c == '\\')

/-- The query or the fragment starts here. -/
def endsPath (c : Char) : Bool := c == '?' || c == '#'

/-- The segment stays where it is. -/
def isHere (segment : String) : Bool := [".", "%2e"].contains segment.toLower

/-- The segment takes a step up. -/
def isAbove (segment : String) : Bool :=
  ["..", ".%2e", "%2e.", "%2e%2e"].contains segment.toLower

/-- A drive: a letter and a colon, or a bar in its place. -/
def isDrive : List Char → Bool
  | [a, b] => a.isAlpha && (b == ':' || b == '|')
  | _ => false

/-- A segment that is a drive takes the colon. -/
def driveText (segment : String) : String :=
  if isDrive segment.toList then String.ofList (segment.toList.take 1 ++ [':']) else segment

/-- Leave out the last segment; a drive stays. -/
def stepUp (file : Bool) (segments : List String) : List String :=
  match segments with
  | [drive] => if file && isDrive drive.toList then segments else []
  | _ => segments.dropLast

/-- The segments of a path, `before` being those already read. -/
def segmentsFrom (scheme : String) : Nat → List String → List Char → List String
  | 0, before, _ => before
  | fuel + 1, before, cs =>
    let (part, rest) := cs.span (!isSlash (isCommon scheme) ·)
    let segment := escape pathEscaped part
    let file := scheme == "file"
    let segment := if file then driveText segment else segment
    let path :=
      if isAbove segment then stepUp file before ++ (if rest.isEmpty then [""] else [])
      else if isHere segment then before ++ (if rest.isEmpty then [""] else [])
      else before ++ [segment]
    match rest with
    | [] => path
    | _ :: rest => segmentsFrom scheme fuel path rest

/-- The segments of a path behind its first slash. -/
def segmentsOf (scheme : String) (cs : List Char) : List String :=
  segmentsFrom scheme (cs.length + 1) [] cs

/-- The path of a URL behind its host. It is never empty in the common schemes. -/
def pathBehindHost (scheme : String) (cs : List Char) : List String :=
  match cs with
  | [] => if isCommon scheme then [""] else []
  | c :: rest => segmentsOf scheme (if isSlash (isCommon scheme) c then rest else cs)

end EvidenceRank.Url

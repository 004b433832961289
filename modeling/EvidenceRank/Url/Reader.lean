import EvidenceRank.Url.Path

/-!
# Reading URLs

Texts are read leniently: blanks around a URL and tabs and line breaks within it do not count,
backslashes are slashes in the common schemes, and any number of slashes may stand behind the colon
of one.

* `Url.parse?`: the URL that a text stands for.
-/

namespace EvidenceRank.Url

/-! ## Schemes -/

/-- The character may stand in a scheme, after its first letter. -/
def isSchemeChar (c : Char) : Bool := c.isAlphanum || c == '+' || c == '-' || c == '.'

/-- The scheme of a text and what stands behind its colon. -/
def scheme? (cs : List Char) : Option (String × List Char) :=
  match cs.span isSchemeChar with
  | (c :: scheme, ':' :: rest) =>
    if c.isAlpha then some (String.ofList ((c :: scheme).map Char.toLower), rest) else none
  | _ => none

/-! ## Hosts -/

/-- The name, the password and what follows them, of what stands before a path. -/
def credentials (cs : List Char) : (String × Option String) × List Char :=
  if cs.contains '@' then
    let back := cs.reverse.takeWhile (· != '@')
    let (username, password) := (cs.take (cs.length - back.length - 1)).span (· != ':')
    let password := match password with
      | [] => none
      | [_] => none
      | _ :: text => some (escape credentialEscaped text)
    ((escape credentialEscaped username, password), back.reverse)
  else (("", none), cs)

/-- What stands before the port, and the rest with its colon. A colon between brackets belongs to
an address. -/
def splitPort : Bool → List Char → List Char × List Char
  | _, [] => ([], [])
  | inside, c :: cs =>
    if c == ':' && !inside then ([], c :: cs)
    else
      let (host, rest) := splitPort (c == '[' || (inside && c != ']')) cs
      (c :: host, rest)

/-- The port behind its colon, if it is not the scheme's own, and what is left. -/
def port? (scheme : String) (cs : List Char) : Option (Option Nat × List Char) :=
  let (digits, rest) := cs.span Char.isDigit
  let n := digits.foldl (fun n d => 10 * n + (d.toNat - 48)) 0
  if 65535 < n || rest.head?.any (· != '\\') then none
  else some (if digits.isEmpty || defaultPort? scheme == some n then none else some n, rest)

/-- The URL of a scheme behind its two slashes, up to the path. What follows the host goes with
the path. -/
def authority? (scheme : String) (cs : List Char) : Option (Url × List Char) := do
  let common := isCommon scheme
  let (place, rest) := cs.span fun c => !(isSlash common c || endsPath c)
  let ((username, password), place) := credentials place
  let (hostText, portText) := splitPort false place
  if hostText.isEmpty then
    if common || !portText.isEmpty || username != "" || password.isSome then none
    if cs.head? == some '@' && !rest.isEmpty then none
  let host ← if common then Host.common? hostText else Host.plain? hostText
  let (portNumber, left) ← match portText with
    | [] => pure (none, [])
    | _ :: digits => port? scheme digits
  return ({ scheme, username, password, host, portNumber, path := .segments [] }, left ++ rest)

/-! ## Files -/

/-- The path of a file. Empty segments at its start do not count. -/
def filePath (cs : List Char) : Path :=
  match (segmentsOf "file" cs).dropWhile (· == "") with
  | [] => .segments [""]
  | parts => .segments parts

/-- The URL of a file behind its colon, without query and fragment. A path with a drive has no
host, nor has the machine at hand. -/
def file? (cs : List Char) : Option Url := do
  match cs with
  | a :: b :: rest =>
    if isSlash true a && isSlash true b then
      let (hostText, path) := rest.span (!isSlash true ·)
      if isDrive hostText then
        return { scheme := "file", host := some (.name ""), path := filePath rest }
      let host ← if hostText.isEmpty then some (.name "") else Host.common? hostText
      let path := filePath (path.drop 1)
      let drive := match path with
        | .segments parts => parts.any fun p => isDrive p.toList
        | .plain _ => false
      let host := if host == .name "localhost" || drive then .name "" else host
      return { scheme := "file", host, path }
    else return { scheme := "file", host := some (.name ""), path := filePath cs }
  | _ => return { scheme := "file", host := some (.name ""), path := filePath cs }

/-! ## Reading -/

/-- The blanks and control characters around a text do not count, nor do tabs and line breaks. -/
def strip (cs : List Char) : List Char :=
  let outer (c : Char) : Bool := c.toNat ≤ 0x20
  (((cs.dropWhile outer).reverse.dropWhile outer).reverse).filter fun c =>
    !(c == '\t' || c == '\n' || c == '\r')

/-- Put the query and the fragment of a text at the end of a URL. -/
def withEnd (url : Url) (cs : List Char) : Url :=
  let (query, fragment) := cs.span (· != '#')
  { url with
    query := match query with
      | [] => none
      | _ :: text => some (escape (queryEscaped (isCommon url.scheme)) text)
    fragment := match fragment with
      | [] => none
      | _ :: text => some (escape fragmentEscaped text) }

/-- The URL that a text stands for. -/
def parse? (text : String) : Option Url := do
  let (scheme, cs) ← scheme? (strip text.toList)
  let (front, back) := cs.span (!endsPath ·)
  if scheme == "file" then return (← file? front).withEnd back
  else if isCommon scheme then
    let (url, path) ← authority? scheme (cs.dropWhile (isSlash true))
    let (path, back) := path.span (!endsPath ·)
    return { url with path := .segments (pathBehindHost scheme path) }.withEnd back
  else match front with
    | '/' :: '/' :: _ =>
      let (url, path) ← authority? scheme (cs.drop 2)
      let (path, back) := path.span (!endsPath ·)
      return { url with path := .segments (pathBehindHost scheme path) }.withEnd back
    | '/' :: path =>
      return { scheme, path := Path.segments (segmentsOf scheme path) : Url }.withEnd back
    | path => return { scheme, path := Path.plain (escape [] path) : Url }.withEnd back

end EvidenceRank.Url

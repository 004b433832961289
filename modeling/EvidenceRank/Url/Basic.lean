import EvidenceRank.Url.Host

/-!
# URLs

The parts of an absolute URL, and its normal form.

* `Url.text`: the URL in its normal form.
* `Url.takeLogin`: the URL without the name and the password that it carries.
-/

namespace EvidenceRank

namespace Url

/-- The path of a URL. -/
inductive Path where
  /-- Segments, each behind a slash. -/
  | segments (parts : List String)
  /-- A path without structure. -/
  | plain (text : String)
deriving DecidableEq

end Url

structure Url where
  scheme : String
  username : String := ""
  password : Option String := none
  /-- What stands behind two slashes; it may be empty in some schemes. -/
  host : Option Url.Host := none
  /-- The port, if it is not the scheme's own. -/
  portNumber : Option Nat := none
  path : Url.Path
  query : Option String := none
  fragment : Option String := none
deriving DecidableEq

namespace Url

/-! ## Schemes -/

/-- The port that a scheme uses if the URL names none. -/
def defaultPort? : String → Option Nat
  | "http" => some 80
  | "https" => some 443
  | "ws" => some 80
  | "wss" => some 443
  | "ftp" => some 21
  | _ => none

/-- The schemes whose URLs have a host and a path of segments. -/
def isCommon (scheme : String) : Bool := (defaultPort? scheme).isSome || scheme == "file"

/-! ## Writing -/

/-- The path as it stands in a URL. -/
def Path.text : Path → String
  | .segments parts => String.join (parts.map ("/" ++ ·))
  | .plain text => text

/-- The URL names a host. -/
def hasHost (url : Url) : Bool :=
  match url.host with
  | none => false
  | some host => host != .name ""

/-- The host and the port. -/
def place (url : Url) : String :=
  ((url.host.map Host.text).getD "")
    ++ ((url.portNumber.map fun n => ":" ++ toString n).getD "")

/-- The name and the password in front of a host. -/
def credentialText (url : Url) : String :=
  let password := (url.password.map (":" ++ ·)).getD ""
  if url.username == "" && password == "" then "" else url.username ++ password ++ "@"

/-- What stands between the scheme and the path. A path that starts with two slashes is kept apart
from it where there is no host. -/
def authorityText (url : Url) : String :=
  match url.host, url.path with
  | some _, _ => "//" ++ url.credentialText ++ url.place
  | none, .segments ("" :: _ :: _) => "/."
  | none, _ => ""

/-- The path and the query. -/
def target (url : Url) : String :=
  url.path.text ++ ((url.query.map ("?" ++ ·)).getD "")

/-- The URL in its normal form. -/
def text (url : Url) : String :=
  url.scheme ++ ":" ++ url.authorityText ++ url.target
    ++ ((url.fragment.map ("#" ++ ·)).getD "")

/-! ## Logins -/

/-- The name and the password of a caller. -/
structure Login where
  name : String
  password : Option String

/-- The URL without its name and password, and what they stand for. They stay where they are if they
stand for no text. -/
def takeLogin (url : Url) : Url × Option Login :=
  match unescaped? url.username.toList with
  | none => (url, none)
  | some name =>
    let password := url.password.bind fun p => unescaped? p.toList
    if name.isEmpty && password.isNone then (url, none)
    else ({ url with username := "", password := none }, some ⟨name, password⟩)

end Url
end EvidenceRank

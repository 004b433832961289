import EvidenceRank.Json.Reader
import EvidenceRank.Json.Writer
import EvidenceRank.Service.Http
import EvidenceRank.Text.Blank

/-!
# Messages on the wire

A call as the bytes that are sent over a connection, and the delivery that received bytes stand
for. A connection carries one call, so that an answer ends with its connection; an answer whose
head states a length, or that comes in chunks, must be complete before it ends.

* `Endpoint.ofUrl?`: where a call is sent.
* `Call.bytes`: what is sent.
* `Delivery.ofBytes`: what came back.
-/

namespace EvidenceRank.Service

/-- The number that decimal digits stand for. -/
def decimal? (cs : List Char) : Option Nat :=
  if cs.isEmpty || !cs.all Char.isDigit then none else some (Json.natOfDigits cs)

/-- Where a call is sent. -/
structure Endpoint where
  host : String
  portNumber : Nat
deriving DecidableEq

/-- The endpoint of a call without encryption. An address stands without its brackets. -/
def Endpoint.ofUrl? (url : Url) : Option Endpoint := do
  if url.scheme != "http" then none
  let host ← match ← url.host with
    | .ipv6 pieces => some (Url.ipv6Text pieces)
    | host => some host.text
  return { host, portNumber := url.portNumber.getD 80 }

/-! ## Sending -/

/-- Lines as they stand in the head of a message, up to the empty line. -/
def headText (lines : List String) : String := String.join ((lines ++ [""]).map (· ++ "\r\n"))

/-- The character of six bits. -/
def base64Char (n : Nat) : Char :=
  if n < 26 then Char.ofNat (65 + n)
  else if n < 52 then Char.ofNat (71 + n)
  else if n < 62 then Char.ofNat (n - 4)
  else if n = 62 then '+' else '/'

/-- The characters of the first `count` of four groups of six bits. -/
def base64Group (n count : Nat) : List Char :=
  ([18, 12, 6, 0].take count).map (fun shift => base64Char (n >>> shift % 64))
    ++ List.replicate (4 - count) '='

/-- Bytes in base 64, three at a time. -/
def base64 : List UInt8 → List Char
  | [] => []
  | [a] => base64Group (65536 * a.toNat) 2
  | [a, b] => base64Group (65536 * a.toNat + 256 * b.toNat) 3
  | a :: b :: c :: rest =>
    base64Group (65536 * a.toNat + 256 * b.toNat + c.toNat) 4 ++ base64 rest

/-- The header that presents a login. -/
def loginHeader (login : Url.Login) : String × String :=
  let bytes := (login.name ++ ":" ++ login.password.getD "").toUTF8.toList
  ("authorization", "Basic " ++ String.ofList (base64 bytes))

/-- The bytes of a call. -/
def Call.bytes (c : Call) : ByteArray :=
  let body := c.body.compact.toUTF8
  let headers := c.headers ++ c.login.toList.map loginHeader
  let head := headText ([s!"POST {c.url.target} HTTP/1.1", s!"host: {c.url.place}",
      "content-type: application/json", "accept: */*", s!"content-length: {body.size}",
      "connection: close"] ++ headers.map fun (name, value) => s!"{name}: {value}")
  head.toUTF8 ++ body

/-! ## Receiving -/

/-- The text of bytes. What is no text has everything beyond ASCII replaced. -/
def textOf (bytes : List UInt8) : String :=
  (String.fromUTF8? ⟨bytes.toArray⟩).getD
    (String.ofList (bytes.map fun b => if b < 0x80 then Char.ofNat b.toNat else '\ufffd'))

/-- Split bytes at the first line break. -/
def line? : List UInt8 → Option (List UInt8 × List UInt8)
  | [] => none
  | 13 :: 10 :: rest => some ([], rest)
  | b :: rest => (line? rest).map fun (l, rest) => (b :: l, rest)

/-- The lines of a head and what follows its empty line. -/
def head? : Nat → List UInt8 → Option (List String × List UInt8)
  | 0, _ => none
  | fuel + 1, bytes => do
    let (l, rest) ← line? bytes
    if l.isEmpty then return ([], rest)
    let (ls, rest) ← head? fuel rest
    return (textOf l :: ls, rest)

/-- The status of an answer by its first line. -/
def status? (line : String) : Option Nat :=
  decimal? (((line.toList.dropWhile (· != ' ')).drop 1).takeWhile (· != ' '))

/-- The value of a header. -/
def header? (name : String) (lines : List String) : Option String :=
  lines.findSome? fun l =>
    let cs := l.toList
    if (cs.takeWhile (· != ':')).map Char.toLower == name.toList then
      some (Text.trim (String.ofList ((cs.dropWhile (· != ':')).drop 1)))
    else none

/-- The number that hexadecimal digits in front of a chunk stand for. -/
def chunkSize? (bytes : List UInt8) : Option Nat := do
  let digits := (textOf bytes).toList.takeWhile (Json.hexValue? · |>.isSome)
  if digits.isEmpty then none
  return (← digits.mapM Json.hexValue?).foldl (16 * · + ·) 0

/-- The content of chunks up to the one of size zero, or nothing if that is missing. -/
def chunks? : Nat → List UInt8 → Option (List UInt8)
  | 0, _ => none
  | fuel + 1, bytes => do
    let (l, rest) ← line? bytes
    let size ← chunkSize? l
    if size = 0 then return []
    if rest.length < size + 2 then none
    return rest.take size ++ (← chunks? fuel (rest.drop (size + 2)))

/-- The body of an answer by its head, or nothing if it broke off. -/
def body? (lines : List String) (bytes : List UInt8) : Option (List UInt8) :=
  if header? "transfer-encoding" lines == some "chunked" then chunks? bytes.length bytes
  else match header? "content-length" lines >>= fun v => decimal? v.toList with
    | none => some bytes
    | some n => if bytes.length < n then none else some (bytes.take n)

/-- The reason when the body of an answer broke off. -/
def brokenBodyMessage : String := "error decoding response body"

/-- What the bytes that came back over a connection stand for. -/
def Delivery.ofBytes (url : Url) (bytes : List UInt8) : Delivery :=
  match head? bytes.length bytes with
  | some (first :: lines, rest) =>
    match status? first, body? lines rest with
    | none, _ => .failed (unreachableMessage url)
    | some status, some body => .answered status (textOf body)
    | some status, none => .brokenOff status brokenBodyMessage
  | _ => .failed (unreachableMessage url)

end EvidenceRank.Service

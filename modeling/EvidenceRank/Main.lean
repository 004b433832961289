import EvidenceRank.Cli.Run
import EvidenceRank.Service.Wire
import EvidenceRank.Text.Uuid
import Std.Async.DNS
import Std.Async.TCP
import Std.Time

/-!
# The program

Runs the command line on the machine at hand: its environment, its files, its clock, and services
that are reached over plain connections.
-/

namespace EvidenceRank.Cli

open Std.Async

/-- The number of a fault of the system. Some calls report it as negative. -/
def faultNumber (code : UInt32) : UInt32 := if code < 0x80000000 then code else 0 - code

/-- The wording of the reason why a file was not read. -/
def readFault : IO.Error → FileContent
  | .noFileOrDirectory .. => .missing "No such file or directory (os error 2)"
  | .inappropriateType _ code _ =>
    if faultNumber code == 20 then .missing "Not a directory (os error 20)"
    else .unreadable "Is a directory (os error 21)"
  | .permissionDenied _ code _ =>
    if faultNumber code == 13 then .unreadable "Permission denied (os error 13)"
    else .unreadable "Operation not permitted (os error 1)"
  | .invalidArgument _ code reason =>
    if faultNumber code == 36 then .missing "File name too long (os error 36)"
    else .unreadable reason
  | .userError _ => .unreadable "stream did not contain valid UTF-8"
  | e => .unreadable (toString e)

/-- Read a file of the machine. -/
def readPath (path : String) : IO FileContent := do
  try return .text (← IO.FS.readFile path)
  catch e => return readFault e

/-- A connection to the first address that accepts one. -/
def connectFirst (number : UInt16) : List Std.Net.IPAddr → Async TCP.Socket.Client
  | [] => throw (IO.userError "nobody listens")
  | address :: addresses => do
    let socket ← TCP.Socket.Client.mk
    let place := match address with
      | .v4 addr => Std.Net.SocketAddress.v4 ⟨addr, number⟩
      | .v6 addr => Std.Net.SocketAddress.v6 ⟨addr, number⟩
    try
      socket.connect place
      return socket
    catch _ => connectFirst number addresses

/-- Everything that is received until the connection ends. -/
partial def receiveAll (socket : TCP.Socket.Client) (received : ByteArray) : Async ByteArray := do
  let more ← try socket.recv? 65536 catch _ => pure none
  match more with
  | none => return received
  | some bytes => receiveAll socket (received ++ bytes)

/-- Send bytes to an endpoint and receive the answer. -/
def exchange (endpoint : Service.Endpoint) (bytes : ByteArray) : Async ByteArray := do
  let addresses ← DNS.getAddrInfo endpoint.host (toString endpoint.portNumber)
  let socket ← connectFirst endpoint.portNumber.toUInt16 addresses.toList
  socket.send bytes
  receiveAll socket .empty

/-- The transport over plain connections. -/
def transport : Service.Transport IO where
  deliver call := do
    let unreachable := Service.Delivery.failed (Service.unreachableMessage call.url)
    match Service.Endpoint.ofUrl? call.url with
    | none => return unreachable
    | some endpoint =>
      try
        let received ← (exchange endpoint call.bytes).block
        return .ofBytes call.url received.toList
      catch _ => return unreachable

/-- The time of the clock. -/
def now : IO String := do
  let time := Std.Time.DateTime.ofTimestamp (← Std.Time.Timestamp.now) .UTC
  return time.format "uuuu-MM-dd'T'HH:mm:ss.SSSSSSSSSxxx"

/-- The machine at hand. -/
def machine : IO (Host IO) := do
  let given ← Flag.ofEnvironment.filterMapM fun flag => do
    let some name := flag.environmentName? | return none
    return (← IO.getEnv name).map fun value => (flag, value)
  let home ← IO.getEnv "HOME"
  return {
    environment := fun flag => given.lookup flag
    home
    contentOf := readPath
    transport
    complaints := fun _ _ => "not what was expected"
    turns := fun _ => .atOnce
    now
    freshId := return Text.randomId (← IO.rand 0 (Nat.pow 2 124)) }

end EvidenceRank.Cli

open EvidenceRank in
/-- Run the command line with its arguments. -/
def main (arguments : List String) : IO UInt32 := do
  let outcome ← Cli.run (← Cli.machine) arguments
  IO.print outcome.output
  for line in outcome.diagnostics do IO.eprintln line
  return outcome.exitCode.toUInt32

import Std.Async.DNS
import Std.Async.Signal
import Std.Async.TCP
import Std.Async.Timer
import Std.Http.Server
import TokenFaucet.Event.Log
import TokenFaucet.Http.Wire
import TokenFaucet.Ledger.Site
import TokenFaucet.Server.Respond
import TokenFaucet.Startup.Run

set_option autoImplicit false

attribute [local instance (2000)] instPowNat

/-!
The process: it answers the questions of the program with the variables, files, clock and network of
the machine it runs on. Only plain connections are made; a server that wants more is unreachable.
-/

namespace TokenFaucet

open Std.Async (Async)

/-- What the process holds while it runs. -/
structure Host where
  log : Log
  /-- How many requests each client has sent. -/
  sent : Std.Mutex (List (String × Nat))
  lanes : Std.Mutex (List (String × Std.BaseMutex))
  /-- The file of the ledger, and its rows. -/
  ledger : Std.Mutex (String × Ledger.Store)
  socket : IO.Ref (Option Std.Async.TCP.Socket.Server)

namespace Host

instance : Inhabited Network.Outcome := ⟨.unreachable⟩

def now : IO Timestamp := do
  return .ofUnixNanoseconds (← Std.Time.Timestamp.now).toNanosecondsSinceUnixEpoch.val

def note (h : Host) (e : Event) : IO Unit := do
  if h.log.shows e then
    IO.println (h.log.line (← now) e)
    (← IO.getStdout).flush

/-- The reason that the system gives for an error. -/
def reason : IO.Error → String
  | .noFileOrDirectory _ code details => s!"{details} (os error {code})"
  | .alreadyExists _ code details => s!"{details} (os error {code})"
  | .inappropriateType _ code details => s!"{details} (os error {code})"
  | .permissionDenied _ code details => s!"{details} (os error {code})"
  | .otherError code details => s!"{details} (os error {code})"
  | e => toString e

/-- The number of a client's next request. -/
def nextNumber (h : Host) (c : Network.Client) : IO Nat :=
  h.sent.atomically do
    let counts ← get
    let count := (counts.lookup c.name).getD 0
    set ((c.name, count + 1) :: counts.filter (·.1 != c.name))
    return c.firstNumber + count

def readAll (socket : Std.Async.TCP.Socket.Client) : Async ByteArray := do
  let mut bytes := ByteArray.empty
  repeat
    match ← socket.recv? 65536 with
    | some more => bytes := bytes ++ more
    | none => break
  return bytes

def socketAddress (port : UInt16) : Std.Net.IPAddr → Std.Net.SocketAddress
  | .v4 address => .v4 ⟨address, port⟩
  | .v6 address => .v6 ⟨address, port⟩

/-- Sends a text to a server and reads what comes back. -/
def connect (host : String) (port : UInt16) (text : String) : Async Network.Outcome := do
  match (← Std.Async.DNS.getAddrInfo host "")[0]? with
  | none => return .unreachable
  | some address =>
    let socket ← Std.Async.TCP.Socket.Client.mk
    socket.connect (socketAddress port address)
    socket.send text.toUTF8
    return Http.Wire.outcome (← readAll socket).toList

/-- Sends a text to the server of an address, and waits up to a limit. -/
def send (url : Url) (text : String) (limit : Nat) : Async Network.Outcome := do
  match url.scheme, url.place with
  | "http", .server _ _ host port =>
    let name := match host with
      | .ipv6 pieces => Url.Host.ipv6Text pieces
      | host => host.text
    let attempt : Async Network.Outcome := do
      try connect name (.ofNat (port.getD 80)) text catch _ => return .unreachable
    let wait : Async Network.Outcome := do
      Std.Async.sleep (.ofNat limit)
      return .timedOut
    Async.race attempt wait
  | _, _ => return .unreachable

def lane (h : Host) (name : String) : IO Std.BaseMutex :=
  h.lanes.atomically do
    let lanes ← get
    match lanes.lookup name with
    | some lane => return lane
    | none =>
      let lane ← Std.BaseMutex.new
      set ((name, lane) :: lanes)
      return lane

def network (h : Host) : (q : Network.Query) → IO q.Answer
  | .exchange r => do
    let number ← h.nextNumber r.client
    (send r.client.url (Http.Wire.request r.client.url number r.payload) r.client.limit).block
  | .acquire name => do (← h.lane name).lock
  | .release name => do (← h.lane name).unlock

def networks (h : Host) : (q : Networks.Query) → IO q.Answer
  | .network q => h.network q
  | .note e => h.note e

/-- Answers from the ledger, whose file is written anew when its rows have changed. -/
def ledgerQuery (h : Host) (q : Ledger.Query) : IO q.Answer := do
  let now ← now
  h.ledger.atomically do
    let (path, store) ← get
    let (answer, after) := store.answer now q
    if after ≠ store then
      let fresh := path ++ ".new"
      IO.FS.writeFile fresh after.archive
      IO.FS.rename fresh path
      set (path, after)
    return answer

def faucet (h : Host) : (q : Faucet.Query) → IO q.Answer
  | .network q => h.network q
  | .ledger q => h.ledgerQuery q

def server (h : Host) : (q : Server.Query) → IO q.Answer
  | .faucet q => h.faucet q
  | .pathExists path => show IO Bool from do
    try
      discard (IO.FS.realPath path)
      return true
    catch _ => return false

/-- The server, and what its questions are answered with. -/
structure Serving where
  host : Host
  server : TokenFaucet.Server

/-- A request as it came over a connection. -/
def requestOf (head : Std.Http.Request.Head) (body : ByteArray) : Http.Request :=
  { method := toString head.method
    target := toString head.uri
    headers := head.headers.toList.map fun h => (h.1.value, h.2.value)
    body := Bytes.lossyText body.toList
    caller := none }

/-- An answer as it goes over a connection. -/
def responseOf (r : Http.Response) : Async (Std.Http.Response Std.Http.Body.Full) := do
  let status := (Std.Http.Status.ofCode none (.ofNat r.status)).getD .internalServerError
  let headers := [("access-control-allow-origin", some Http.Response.allowedOrigin),
    ("content-type", r.contentType), ("allow", r.allow)]
  let builder := headers.foldl (fun builder h =>
    match h.2 with
    | some value => (builder.header? h.1 value).getD builder
    | none => builder) (Std.Http.Response.withStatus status)
  return builder.body (← Std.Http.Body.Full.ofString r.body)

instance : Std.Http.Server.Handler Serving where
  onRequest s r := do
    let body : ByteArray ← r.body.readAll
    let program := s.server.respond (requestOf r.line body)
    let answer ← IO.asTask (program.interpret s.host.server) Task.Priority.dedicated
    let response ← Async.ofAsyncTask answer
    let response ← responseOf response
    return { response with body := Std.Http.Body.Any.ofBody response.body }

/-- An address to listen at, for the system. -/
def bindAddress (a : SocketAddress) : Std.Net.SocketAddress :=
  match a.host with
  | .ipv4 address =>
    let octet (place : Nat) : UInt8 := .ofNat (address / 256 ^ place)
    .v4 ⟨.ofParts (octet 3) (octet 2) (octet 1) (octet 0), .ofNat a.port⟩
  | .ipv6 pieces _ =>
    let piece (index : Nat) : UInt16 := .ofNat (pieces.getD index 0)
    .v6 ⟨⟨Vector.ofFn fun (i : Fin 8) => piece i⟩, .ofNat a.port⟩

def listen (h : Host) (a : SocketAddress) : IO (Except String Unit) := do
  try
    let socket ← Std.Async.TCP.Socket.Server.mk
    socket.bind (bindAddress a)
    socket.listen 1024
    h.socket.set (some socket)
    return .ok ()
  catch e => return .error (reason e)

/-- Serves connections until the process is told to stop. -/
def serve (h : Host) (s : TokenFaucet.Server) : Async Unit := do
  let some socket ← h.socket.get | return
  let stop ← Std.Async.Signal.Waiter.mk .sigint false
  let context ← Std.CancellationContext.new
  repeat
    let accepted ← Std.Async.Selectable.one #[
      .case socket.acceptSelector (fun client => return some client),
      .case stop.selector (fun _ => return none)]
    match accepted with
    | some client =>
      Std.Async.background
        (Std.Http.Server.serveConnection client (Serving.mk h s) ({} : Std.Http.Config)
          Std.Http.Extensions.empty context)
    | none => break

def openLedger (h : Host) (path : String) : IO (Except Ledger.Error Unit) := do
  let (directory, _) := Ledger.splitPath path
  try
    IO.FS.createDirAll directory
    let content ← try IO.FS.readFile path catch e =>
      match e with
      | .noFileOrDirectory .. => pure ""
      | e => throw e
    match Ledger.Store.ofArchive? content with
    | some store =>
      IO.FS.writeFile path store.archive
      h.ledger.atomically (set (path, store))
      return .ok ()
    | none => return .error Ledger.foreignFile
  catch e => return .error (.storage s!"{directory}: {reason e}")

def startup (h : Host) : (q : Startup.Query) → IO q.Answer
  | .networks q => h.networks q
  | .readText path => show IO (Except String String) from do
    try return .ok (← IO.FS.readFile path) catch e => return .error (reason e)
  | .openLedger path => h.openLedger path
  | .listen address => h.listen address
  | .serve s => (h.serve s).block

end Host

end TokenFaucet

def main : IO UInt32 := do
  let names := TokenFaucet.Settings.variableNames ++ TokenFaucet.Log.variableNames
  let values ← names.mapM fun name => return (name, ← IO.getEnv name)
  let lookup (name : String) : Option String := (values.lookup name).join
  let host : TokenFaucet.Host :=
    { log := .ofVariables lookup
      sent := ← Std.Mutex.new []
      lanes := ← Std.Mutex.new []
      ledger := ← Std.Mutex.new ("", .empty)
      socket := ← IO.mkRef none }
  (TokenFaucet.Startup.run lookup).interpret host.startup

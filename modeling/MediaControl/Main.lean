import MediaControl.CommandLine.Action
import MediaControl.Number.Duration
import MediaControl.Simulation.Network
import Std.Internal.UV.DNS
import Std.Internal.UV.TCP
import Std.Internal.UV.Timer

/-!
# The program

Reads the command line, the environment and the configuration, and does what they come to: prints,
sends a request over a socket, or serves channels on one.  Sessions and servers decide what happens;
here bytes are carried between them and the sockets, and time is told.
-/

set_option autoImplicit false

namespace MediaControl.Program

open Std.Internal.UV.TCP (Socket)

/-- What a device says of its failure. -/
def reasonOf : IO.Error → String
  | .noFileOrDirectory .. => "No such file or directory (os error 2)"
  | e => toString e

/-- Why a file cannot be read. -/
def faultOf : IO.Error → FileFault
  | .noFileOrDirectory .. => .missing
  | .inappropriateType none .. => .isDirectory
  | .inappropriateType (some _) .. => .notDirectory
  | .invalidArgument _ _ "name too long" => .nameTooLong
  | e => .other (reasonOf e)

/-- What is in a file. -/
def readFile (path : String) : IO (Except FileFault Bytes) := do
  try
    return .ok (← IO.FS.readBinFile path).toList
  catch e => return .error (faultOf e)

/-- Where the account that runs the program is at home, if that can be found out. -/
def accountHome : IO (Option String) := do
  try
    let status ← IO.FS.lines "/proc/self/status"
    let accounts ← IO.FS.readFile "/etc/passwd"
    return status.toList.findSome? fun line =>
      match line.splitOn "\t" with
      | "Uid:" :: number :: _ => CommandLine.Environment.homeIn? accounts number
      | _ => none
  catch _ => return none

/-- The environment. -/
def environment : IO CommandLine.Environment := do
  let names := ["MRCP_CONFIG", "MRCP_SERVER", "XDG_CONFIG_HOME", "HOME"]
  let values ← names.mapM fun name => return (name, ← IO.getEnv name)
  return .ofVariables (← accountHome) fun name => (values.lookup name).join

/-- Prints what is left behind. -/
def finish (o : CommandLine.Outcome) : IO UInt32 := do
  IO.print o.stdout
  IO.eprint o.stderr
  return o.exit.toUInt32

/-! ## Sockets -/

/-- A task that ends with nothing after so many milliseconds. -/
def alarm {α : Type} (milliseconds : Nat) : IO (Task (Option α)) := do
  let timer ← Std.Internal.UV.Timer.mk milliseconds.toUInt64 false
  return (← timer.next).result?.map fun _ => none

/-- What is promised, if it comes within so many milliseconds. -/
def within {α : Type} (limit? : Option Nat) (promise : IO.Promise (Except IO.Error α)) :
    IO (Option (Except IO.Error α)) := do
  match limit? with
  | none => IO.wait promise.result?
  | some limit => IO.waitAny [promise.result?, ← alarm limit]

/-- What is promised, whenever it comes. -/
def awaited {α : Type} (promise : IO.Promise (Except IO.Error α)) : IO α := do
  match ← within none promise with
  | some (.ok a) => return a
  | some (.error e) => throw e
  | none => throw (.userError "nothing came of it")

/-- An address for a socket. -/
def socketAddress (host : Std.Net.IPAddr) (port : UInt16) : Std.Net.SocketAddress :=
  match host with
  | .v4 addr => .v4 { addr, port }
  | .v6 addr => .v6 { addr, port }

/-- The addresses for sockets that a text `host:port` stands for. -/
def resolve (address : String) : IO (List Std.Net.SocketAddress) := do
  match address.toList.splitOnP (· = ':') |>.reverse with
  | port :: rest@(_ :: _) =>
    match Natural.readChars Natural.max16 port with
    | .error _ => return []
    | .ok number =>
      let host := String.intercalate ":" (rest.reverse.map .ofList)
      let host := if host.startsWith "[" then String.ofList (host.toList.drop 1).dropLast else host
      let found ← awaited (← Std.Internal.UV.DNS.getAddrInfo host (.ofList port) 0)
      return found.toList.map fun ip => socketAddress ip number.toUInt16
  | _ => return []

/-- Connects to the first address that can be reached.  Nothing comes of it if a moment of the clock
passes before. -/
def connectAny (last : Nat) : List Std.Net.SocketAddress → IO (Option (Option Socket))
  | [] => return some none
  | address :: rest => do
    let socket ← Socket.new
    let now ← IO.monoMsNow
    match ← within (some (last - now)) (← socket.connect address) with
    | some (.ok _) =>
      socket.noDelay
      return some (some socket)
    | some (.error _) => connectAny last rest
    | none => return none

/-- Sends bytes, if there are any. -/
def write (socket : Socket) (bytes : Bytes) : IO Unit := do
  if !bytes.isEmpty then awaited (← socket.send #[⟨bytes.toArray⟩])

/-- How many bytes are read at a time. -/
def chunk : UInt64 := 65536

/-! ## Sending -/

/-- Writes what is queued in a session. -/
def flush (socket : Socket) (s : Session) : IO Session := do
  let (bytes, connection) := s.connection.write
  write socket bytes
  return { s with connection }

/-- What has arrived is handed on within a session. -/
def take (s : Session) (arrived : Option ByteArray) : Session :=
  let connection := match arrived with
    | some bytes => s.connection.receive bytes.toList
    | none => s.connection.endInput
  let pumped := connection.pump Session.keeps (fun s m => (s.receive m).1) s
  let s := { pumped.state with connection := connection.afterPump pumped }
  match pumped.stopped with
  | some reason => { s.stop reason with connection := s.connection.close }
  | none => s

/-- Waits for the next answer to a request, until a moment of the clock. -/
partial def answerUntil (last? : Option Nat) (socket : Socket) (p : Pending) (s : Session) :
    IO (Except Error Message × Session) := do
  match s.correlator.take? p.slot with
  | some (item, correlator) => return (item, { s with correlator })
  | none =>
    let now ← IO.monoMsNow
    match ← within (last?.map (· - now)) (← socket.recv? chunk) with
    | some (.ok arrived) => answerUntil last? socket p (take s arrived)
    | some (.error _) => answerUntil last? socket p (take s none)
    | none =>
      let limit := p.limit?.getD 0
      return (.error (.ofCause (.requestTimedOut p.id (Duration.text limit))), s)

/-- Waits for the next answer to a request. -/
def nextAnswer (socket : Socket) (p : Pending) (s : Session) :
    IO (Except Error Message × Session) := do
  let now ← IO.monoMsNow
  answerUntil (p.limit?.map (now + ·)) socket p s

/-- Waits for the completion of a request. -/
partial def completion (socket : Socket) (p : Pending) (s : Session) :
    IO (Except Error Message) := do
  let (item, s) ← nextAnswer socket p s
  match Pending.completionOf item with
  | some result => return result
  | none => completion socket p s

/-- Sends a request and prints its answers. -/
def send (o : Sending) : IO (Except ClientError Unit) := do
  let last := (← IO.monoMsNow) + o.connectLimit
  let reached ← try connectAny last (← resolve o.address) catch _ => pure (some none)
  match reached with
  | none => return .error o.tooSlow
  | some none => return .error o.unreachable
  | some (some socket) =>
    let session : Session :=
      { connection := { id := 1, peer := o.address, limit := o.maxMessageSize }
        limit? := o.limit? }
    match o.start session with
    | .error e => return .error e
    | .ok (p, session) =>
      let (item, session) ← nextAnswer socket p (← flush socket session)
      match Pending.responseOf item with
      | .error e => return .error (.protocol e)
      | .ok response =>
        IO.print (Sending.shown (.response response))
        match response.succeeded with
        | .error e => return .error (.protocol e)
        | .ok response =>
          if o.options.waitsForCompletion && !response.state.isTerminal then
            match ← completion socket p session with
            | .error e => return .error (.protocol e)
            | .ok done => IO.print (Sending.shown done)
          return .ok ()

/-! ## Serving -/

/-- Something that a server waits for. -/
inductive Arrival where
  /-- somebody connects -/
  | visitor (socket : Option Socket)
  /-- bytes arrive on a connection, or its end -/
  | bytes (connection : Nat) (arrived : Option ByteArray)
  /-- a task of the agenda is due -/
  | moment

/-- A server at work. -/
structure Serving where
  network : TimedNetwork
  listener : Socket
  config : ServerConfig
  /-- the sockets of the connections -/
  sockets : List (Nat × Socket) := []
  /-- somebody may connect at any time, and is waited for -/
  isInviting : Bool := false
  /-- what is waited for, under numbers -/
  waiting : List (Nat × Task (Nat × Arrival)) := []
  nextNumber : Nat := 0
  /-- the moment of the agenda for which an alarm has been set -/
  alarm? : Option Nat := none
  /-- the moment at which serving began, in milliseconds of the clock -/
  start : Nat

namespace Serving

/-- Waits for one thing more. -/
def expect {α : Type} (s : Serving) (task : Task α) (arrival : α → Arrival) : Serving :=
  let number := s.nextNumber
  { s with
    nextNumber := number + 1
    waiting := (number, task.map fun a => (number, arrival a)) :: s.waiting }

/-- Waits for bytes on a connection. -/
def expectBytes (s : Serving) (connection : Nat) (socket : Socket) : IO Serving := do
  let promise ← socket.recv? chunk
  return s.expect promise.result? fun
    | some (.ok arrived) => .bytes connection arrived
    | _ => .bytes connection none

/-- Waits for somebody to connect, as long as there is room. -/
def invite (s : Serving) : IO Serving := do
  let open_ := s.network.state.lines.countP fun c => !c.closed
  if s.isInviting || s.config.maxConnections ≤ open_ then return s
  let promise ← s.listener.accept
  return { s with isInviting := true }.expect promise.result? fun
    | some (.ok socket) => .visitor (some socket)
    | _ => .visitor none

/-- Waits for the next task of the agenda. -/
def expectMoment (s : Serving) : IO Serving := do
  match s.network.agenda.entries with
  | [] => return s
  | (due, _) :: _ =>
    if s.alarm?.any (· ≤ due) then return s
    let task : Task (Option Unit) ← alarm (due - s.network.agenda.now)
    return { s with alarm? := some due }.expect task fun _ => .moment

/-- Hands on what has arrived. -/
def receive (s : Serving) : Arrival → IO Serving
  | .moment => return { s with alarm? := none }
  | .visitor none => return { s with isInviting := false }
  | .visitor (some socket) => do
    socket.noDelay
    let peer := toString (← socket.getPeerName)
    let (id, network) := s.network.connect peer s.config.maxMessageSize
    { s with network, isInviting := false, sockets := (id, socket) :: s.sockets }.expectBytes id
      socket
  | .bytes id (some arrived) => do
    let s := { s with network := s.network.receive id arrived.toList }
    match s.sockets.lookup id with
    | some socket => s.expectBytes id socket
    | none => return s
  | .bytes id none => return { s with network := s.network.endInput id }

/-- Does what is due, and writes what has been queued meanwhile. -/
def settle (s : Serving) : IO Serving := do
  let moment := (← IO.monoMsNow) - s.start
  let (sent, _, network) := (s.network.advanceTo (max moment s.network.agenda.now)).collect
  for (id, bytes) in sent do
    if let some socket := s.sockets.lookup id then
      try write socket bytes catch _ => pure ()
  let isOver (id : Nat) : Bool := ((network.state.connection? id).map (!·.writing)).getD true
  for (_, socket) in s.sockets.filter fun row => isOver row.1 do
    try awaited (← socket.shutdown) catch _ => pure ()
  return { s with network, sockets := s.sockets.filter fun row => !isOver row.1 }

/-- Serves for ever. -/
partial def run (s : Serving) : IO Unit := do
  let s ← (← (← s.settle).invite).expectMoment
  match s.waiting.map Prod.snd with
  | [] => return
  | task :: tasks =>
    let (number, arrival) ← IO.waitAny (task :: tasks)
    let s := { s with waiting := s.waiting.filter fun row => row.1 ≠ number }
    run (← s.receive arrival)

end Serving

/-- Serves channels. -/
def serve (server : Server) (config : ServerConfig) (channels : List String) :
    IO (Except ClientError Unit) := do
  try
    let addresses ← resolve config.bind.text
    let listener ← Socket.new
    for address in addresses.take 1 do
      listener.bind address
    listener.listen 128
    match CommandLine.openAll server channels with
    | .error e => return .error e
    | .ok server =>
      let bound := toString (← listener.getSockName)
      let address := (SocketAddress.read? bound).getD config.bind
      IO.print (CommandLine.announcement server address)
      (← IO.getStdout).flush
      let start ← IO.monoMsNow
      Serving.run { network := { state := { server } }, listener, config, start }
      return .ok ()
  catch
    | .resourceBusy .. => return .error CommandLine.addressInUse
    | .unsupportedOperation _ "address not available" => return .error CommandLine.addressNotOwn
    | e => return .error (.server (.device (reasonOf e)))

/-! ## The command -/

/-- What comes of a command. -/
def conclude (result : Except ClientError Unit) : IO UInt32 :=
  match result with
  | .ok () => return 0
  | .error e => finish (.ofError e)

end MediaControl.Program

open MediaControl MediaControl.Program in
/-- Does what the command line asks for. -/
def main (arguments : List String) : IO UInt32 := do
  let environment ← environment
  let path := match CommandLine.read environment arguments with
    | .ok i => i.config?.getD environment.configPath
    | .error _ => environment.configPath
  let contents ← readFile path
  match CommandLine.action (fun _ => contents) environment arguments with
  | .finish o => finish o
  | .send o => do conclude (← send o)
  | .serve server config channels => do conclude (← serve server config channels)

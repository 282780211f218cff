import MediaControl.Client.Sending
import MediaControl.Files
import MediaControl.Server.Demo

/-!
# Command lines: what is done (SPEC_FULL §6)

What a command line comes to before the network is touched: everything is said already, or a request
is to be sent, or channels are to be served.  The channels are opened once the server has its
address.
-/

set_option autoImplicit false

namespace MediaControl.CommandLine

/-- What the program leaves behind. -/
structure Outcome where
  exit : Nat := 0
  stdout : String := ""
  stderr : String := ""
  deriving DecidableEq, Repr

/-- The exit code after arguments that make no command. -/
def usageExit : Nat := 2

namespace Outcome

/-- A command failed. -/
def ofError (e : ClientError) : Outcome := { exit := 1, stderr := s!"error: {e.message}\n" }

/-- How the program is called. -/
def usage : String :=
  "usage: mrcp [-c FILE] [-v] [--wire] COMMAND\n" ++
  "  serve --channel ID@TYPE [--bind ADDRESS] [--max-connections N]\n" ++
  "  send METHOD [--server ADDRESS] [--channel ID@TYPE] [-H NAME:VALUE] [--body TEXT]\n" ++
  "       [--content-type TYPE] [--wait-complete] [--timeout SECONDS]\n" ++
  "  config dump\n" ++
  "  config path\n"

/-- The arguments make no command, or ask for what needs none. -/
def ofFault : Fault → Outcome
  | .versionWanted => { stdout := "mrcp 0.1.0\n" }
  | .helpWanted => { stdout := usage }
  | _ => { exit := usageExit, stderr := usage }

end Outcome

/-- What a command line comes to. -/
inductive Action where
  | finish (o : Outcome)
  | send (s : Sending)
  /-- the channels are to be opened on the server -/
  | serve (s : Server) (config : ServerConfig) (channels : List String)

/-- The error when the address of a server belongs to another one. -/
def addressInUse : ClientError := .server (.device "Address already in use (os error 98)")

/-- The error when the address of a server belongs to another host. -/
def addressNotOwn : ClientError :=
  .server (.device "Cannot assign requested address (os error 99)")

/-- The line that a server prints once it listens. -/
def announcement (s : Server) (address : SocketAddress) : String :=
  s!"listening on {address.text} with {Natural.text s.channels.size} channel(s)\n"

/-- Opens channels for demonstration. -/
def openAll (s : Server) (channels : List String) : Except ClientError Server :=
  channels.foldlM (fun s text =>
    match ChannelId.parse text with
    | .error reason =>
      .error (.usage s!"invalid channel {Text.quoted text}: {reason.message}")
    | .ok id => (s.openChannel id (Demo.handlers id.resource)).mapError .server) s

/-- What a command comes to. -/
def Command.action (configPath : String) (config : ClientConfig) :
    Command → Except ClientError Action
  | .serve o => do
    let settings : ServerConfig := { bind := o.bind, maxConnections := o.maxConnections }
    return .serve (← (Server.start settings).mapError .server) settings o.channels
  | .send o => do return .send (← Sending.ofOptions o config)
  | .dumpConfig =>
    return .finish { stdout := s!"# config.toml ({configPath})\n" ++ config.document ++ "\n" }
  | .showConfigPath => return .finish { stdout := s!"config: {configPath}\n" }

/-- What a command leaves behind on a host without others around it, where no server can be reached;
`taken` is the address of one. -/
def Action.offline (taken : String) : Action → Outcome
  | .finish o => o
  | .send s => .ofError s.unreachable
  | .serve s config channels =>
    if !config.bind.host.isOwn then .ofError addressNotOwn
    else if config.bind.text = taken then .ofError addressInUse
    else match openAll s channels with
      | .error e => .ofError e
      | .ok s => { stdout := announcement s config.bind }

/-- The configuration.  The file at the usual place need not be there. -/
def loadConfig (files : Files) (usual : String) : Option String → Except ConfigFault ClientConfig
  | some path => ClientConfig.load path (files path)
  | none =>
    match files usual with
    | .error fault => if fault.isAbsence then .ok {} else ClientConfig.load usual (.error fault)
    | .ok bytes => ClientConfig.load usual (.ok bytes)

/-- What an invocation comes to. -/
def Invocation.action (files : Files) (usual : String) (i : Invocation) :
    Except ClientError Action := do
  let config ← (loadConfig files usual i.config?).mapError fun fault => .config fault.message
  i.command.action usual config

/-- What arguments come to. -/
def action (files : Files) (environment : Environment) (arguments : List String) : Action :=
  match read environment arguments with
  | .error fault => .finish (.ofFault fault)
  | .ok i =>
    match i.action files environment.configPath with
    | .error e => .finish (.ofError e)
    | .ok action => action

end MediaControl.CommandLine

import MediaControl.Address
import MediaControl.CommandLine.Options
import MediaControl.Server.Registry

/-!
# Command lines: the commands (SPEC_FULL §6)

What the program can be asked to do: serve channels, send one request, show its configuration or
where that is kept.
-/

set_option autoImplicit false

namespace MediaControl.CommandLine

/-- What the environment says. -/
structure Environment where
  /-- the path of the configuration, in the place of the option -/
  config? : Option String := none
  /-- the address of the server, in the place of the option -/
  server? : Option String := none
  /-- the directory in which programs keep their configuration -/
  configHome : String := "."

namespace Environment

/-- A path below another one. -/
def below (path name : String) : String :=
  if path.endsWith "/" then path ++ name else path ++ "/" ++ name

/-- The directory in which programs keep their configuration: what is said of it, if it is said from
the root on, or else a directory where the user is at home, which is said too or belongs to the
account. -/
def configHomeOf (said home account : Option String) : String :=
  match said.filter (·.startsWith "/"), (home.filter (· ≠ "")).or account with
  | some path, _ => path
  | none, some home => below home ".config"
  | none, none => "."

/-- What the variables say; `account` is where the user's account is at home. -/
def ofVariables (account : Option String) (value? : String → Option String) : Environment where
  config? := value? "MRCP_CONFIG"
  server? := value? "MRCP_SERVER"
  configHome := configHomeOf (value? "XDG_CONFIG_HOME") (value? "HOME") account

/-- Where the account with that number is at home, by the list of accounts. -/
def homeIn? (accounts number : String) : Option String :=
  (accounts.splitOn "\n").findSome? fun line =>
    match line.splitOn ":" with
    | [_, _, id, _, _, home, _] => if id = number then some home else none
    | _ => none

/-- Where the configuration is, if nothing else is said. -/
def configPath (e : Environment) : String := below (below e.configHome "mrcp") "config.toml"

end Environment

/-- Channels to be served. -/
structure ServeOptions where
  bind : SocketAddress
  channels : List String
  maxConnections : Nat

/-- A request to be sent. -/
structure SendOptions where
  server? : Option String := none
  channel? : Option String := none
  method : String
  headers : List String := []
  body? : Option String := none
  contentType : String := "text/plain"
  /-- the completion is waited for too -/
  waitsForCompletion : Bool := false
  /-- how many seconds a wait for an answer may take -/
  timeout? : Option Nat := none

/-- Something to be done. -/
inductive Command where
  | serve (o : ServeOptions)
  | send (o : SendOptions)
  | dumpConfig
  | showConfigPath

/-- A whole command line. -/
structure Invocation where
  /-- where the configuration is read from, if not from its usual place -/
  config? : Option String := none
  debug : Bool := false
  /-- every message is logged -/
  tracesWire : Bool := false
  command : Command

/-! ## Options -/

/-- A value of any kind. -/
def anyValue : OptionKind := .valued fun _ => none

/-- The path of a file. -/
def pathValue : OptionKind := .valued fun s => if s.isEmpty then some .valueMissing else none

/-- A number of 64 bits. -/
def numberValue : OptionKind :=
  .valued fun s => if (Natural.read Natural.max64 s).isOk then none else some .illegalValue

/-- An address with its port. -/
def addressValue : OptionKind :=
  .valued fun s => if (SocketAddress.read? s).isSome then none else some .illegalValue

/-- The option that asks for help, which every command has. -/
def help : OptionForm := { name := "help", short? := some 'h', kind := .ending .helpWanted }

/-- What the program takes. -/
def program : Form where
  options :=
    [{ name := "config", short? := some 'c', kind := pathValue },
      { name := "debug", short? := some 'v', kind := .plain },
      { name := "wire", kind := .plain },
      help,
      { name := "version", short? := some 'V', kind := .ending .versionWanted }]
  commands := ["serve", "send", "config", "help"]

/-- What `serve` takes. -/
def serveForm : Form where
  options :=
    [{ name := "bind", kind := addressValue }, { name := "channel", kind := .listed },
      { name := "max-connections", kind := numberValue }, help]

/-- What `send` takes. -/
def sendForm : Form where
  options :=
    [{ name := "server", kind := anyValue }, { name := "channel", kind := anyValue },
      { name := "header", short? := some 'H', kind := .listed }, { name := "body", kind := anyValue },
      { name := "content-type", kind := anyValue }, { name := "wait-complete", kind := .plain },
      { name := "timeout", kind := numberValue }, help]
  words := 1

/-- What `config` takes. -/
def configForm : Form where
  options := [help]
  commands := ["dump", "path", "help"]

/-- What a command takes that takes nothing. -/
def bareForm : Form where
  options := [help]

/-! ## Commands -/

/-- The number that the option gives. -/
def numberOf (g : Given) (name : String) : Option Nat :=
  (g.value? name).bind fun s => (Natural.read Natural.max64 s).toOption

/-- Reads the arguments of a command that has no commands of its own. -/
def readLeaf (form : Form) (arguments : List String) : Except Fault Given := do
  (← form.read false {} arguments).1.settle

/-- Reads the arguments of `serve`. -/
def readServe (arguments : List String) : Except Fault Command := do
  let g ← readLeaf serveForm arguments
  let standard : ServerConfig := {}
  if !g.has "channel" then throw .requiredMissing
  return .serve {
    bind := ((g.value? "bind").bind SocketAddress.read?).getD standard.bind
    channels := g.values "channel"
    maxConnections := (numberOf g "max-connections").getD standard.maxConnections }

/-- Reads the arguments of `send`. -/
def readSend (environment : Environment) (arguments : List String) : Except Fault Command := do
  let g ← readLeaf sendForm arguments
  match g.words with
  | [] => throw .requiredMissing
  | method :: _ =>
    return .send {
      server? := (g.value? "server").or environment.server?
      channel? := g.value? "channel"
      method
      headers := g.values "header"
      body? := g.value? "body"
      contentType := (g.value? "content-type").getD "text/plain"
      waitsForCompletion := g.has "wait-complete"
      timeout? := numberOf g "timeout" }

/-- A command of its own is required: what is missing if there is none. -/
def missingCommand (isBare : Bool) : Fault := if isBare then .nothingGiven else .commandMissing

/-- The names of a command's own commands. -/
def commandsOf (name : String) : List String := if name = "config" then configForm.commands else []

/-- What becomes of a request for help: each argument has to name a command of the one before it, the
first one of `names`. -/
def helpOn (names : List String) : List String → Fault
  | [] => .helpWanted
  | name :: rest => if names.contains name then helpOn (commandsOf name) rest else .unknownCommand

/-- Reads the arguments of `config`. -/
def readConfig (arguments : List String) : Except Fault Command := do
  match ← configForm.read false {} arguments with
  | (g, none) => throw (missingCommand (← g.settle).options.isEmpty)
  | (_, some ("dump", rest)) =>
    discard (readLeaf bareForm rest)
    return .dumpConfig
  | (_, some ("path", rest)) =>
    discard (readLeaf bareForm rest)
    return .showConfigPath
  | (_, some (_, rest)) => throw (helpOn configForm.commands rest)

/-- Reads a command, given by its name and its arguments. -/
def readCommand (environment : Environment) (arguments : List String) :
    String → Except Fault Command
  | "serve" => readServe arguments
  | "send" => readSend environment arguments
  | "config" => readConfig arguments
  | _ => throw (helpOn program.commands arguments)

/-- The path of the configuration: the option, or else what the environment says. -/
def configPath? (g : Given) (environment : Environment) : Except Fault (Option String) :=
  match g.value? "config", environment.config? with
  | some path, _ => .ok (some path)
  | none, some "" => .error .valueMissing
  | none, path? => .ok path?

/-- Reads a whole command line. -/
def read (environment : Environment) (arguments : List String) : Except Fault Invocation := do
  match ← program.read false {} arguments with
  | (g, none) =>
    let g ← g.settle
    let path? ← configPath? g environment
    throw (missingCommand (g.options.isEmpty && path?.isNone))
  | (g, some (name, rest)) =>
    let command ← readCommand environment rest name
    let g ← g.settle
    return { config? := ← configPath? g environment, debug := g.has "debug"
             tracesWire := g.has "wire", command }

end MediaControl.CommandLine

import MediaControl.Files
import MediaControl.Number.Natural
import MediaControl.Server.Registry
import MediaControl.Toml.Document
import MediaControl.Toml.Literal

/-!
# The configuration file (SPEC_FULL §9)

Settings that the command line need not repeat, kept in a TOML document.  A setting that the document
leaves out has its standard value, and keys that mean nothing here are passed over.
-/

set_option autoImplicit false

namespace MediaControl

/-- How a server is reached. -/
structure ServerSettings where
  address : String := "127.0.0.1:" ++ Natural.text defaultPort
  /-- how many seconds connecting may take -/
  timeout : Nat := 5
  /-- how many seconds a wait for an answer may take; none of them means that it never ends -/
  requestTimeout : Nat := 30
  /-- the largest message that is read or written -/
  maxMessageSize : Nat := Wire.defaultLimit
  deriving DecidableEq, Repr

/-- The settings of a client. -/
structure ClientConfig where
  debug : Bool := false
  /-- the channel for requests that name none -/
  channel? : Option String := none
  server : ServerSettings := {}
  deriving DecidableEq, Repr

/-- Why there is no configuration to be had from a file. -/
inductive ConfigFault where
  | unreadable (path reason : String)
  | illegal (path : String)
  deriving DecidableEq, Repr

/-- The fault in words. -/
def ConfigFault.message : ConfigFault → String
  | unreadable path reason => s!"failed to read {path}: {reason}"
  | illegal path => s!"failed to parse {path}"

namespace ServerSettings

/-- Reads a setting that may be left out. -/
def setting {α : Type} (read : Toml.Item → Option α) (standard : α) : Option Toml.Item → Option α
  | none => some standard
  | some item => read item

/-- The settings among items that are looked up by key and by place. -/
def ofLookup (item? : String → Nat → Option Toml.Item) : Option ServerSettings := do
  let standard : ServerSettings := {}
  return {
    address := ← setting Toml.Item.text? standard.address (item? "address" 0)
    timeout := ← setting Toml.Item.natural? standard.timeout (item? "timeout" 1)
    requestTimeout := ←
      setting Toml.Item.natural? standard.requestTimeout (item? "request_timeout" 2)
    maxMessageSize := ←
      setting Toml.Item.natural? standard.maxMessageSize (item? "max_message_size" 3) }

/-- The settings that an item holds: a table by their names, or a list in their order.  A date says
nothing of them. -/
def ofItem : Toml.Item → Option ServerSettings
  | .table _ entries => ofLookup fun key _ => entries.get? key
  | .list items => ofLookup fun _ place => items[place]?
  | .moment => some {}
  | _ => none

end ServerSettings

namespace ClientConfig

/-- The settings that a document holds. -/
def ofEntries (entries : Toml.Entries) : Option ClientConfig := do
  let debug ← ServerSettings.setting Toml.Item.boolean? false (entries.get? "debug")
  let channel? ←
    ServerSettings.setting (fun item => item.text?.map some) none (entries.get? "channel")
  let server ← ServerSettings.setting ServerSettings.ofItem {} (entries.get? "server")
  return { debug, channel?, server }

/-- Reads a document. -/
def read? (document : String) : Option ClientConfig := (Toml.read? document).bind ofEntries

/-- The configuration in a file, given what came of reading the file. -/
def load (path : String) (contents : Except FileFault Bytes) : Except ConfigFault ClientConfig :=
  match contents with
  | .error fault => .error (.unreadable path fault.message)
  | .ok bytes =>
    match Utf8.decode? bytes with
    | none => .error (.unreadable path "stream did not contain valid UTF-8")
    | some document =>
      match read? document with
      | none => .error (.illegal path)
      | some config => .ok config

/-- The document that holds the settings. -/
def document (c : ClientConfig) : String :=
  let channel := match c.channel? with
    | some channel => "channel = " ++ Toml.literal channel ++ "\n"
    | none => ""
  "debug = " ++ (if c.debug then "true" else "false") ++ "\n" ++ channel ++
    "\n[server]\naddress = " ++ Toml.literal c.server.address ++
    "\ntimeout = " ++ Natural.text c.server.timeout ++
    "\nrequest_timeout = " ++ Natural.text c.server.requestTimeout ++
    "\nmax_message_size = " ++ Natural.text c.server.maxMessageSize ++ "\n"

/-- How long connecting may take, in milliseconds. -/
def connectLimit (c : ClientConfig) : Nat := c.server.timeout * 1000

/-- How long a wait for an answer may take, in milliseconds. -/
def requestLimit? (c : ClientConfig) : Option Nat :=
  if c.server.requestTimeout = 0 then none else some (c.server.requestTimeout * 1000)

end ClientConfig

end MediaControl

import SpaGateway.Address.Parser
import SpaGateway.Config.Toml
import SpaGateway.Text.Blank

/-!
# The command line

The gateway takes options, each with one value, and flags. An option is given by its long
name (`--name value` or `--name=value`) or by a letter (`-n value`, `-nvalue` or `-n=value`);
letters of flags may be joined. There are no other arguments.

Arguments are read in order. The value of an option counts only when the next option begins,
or at the end: so an unknown argument is reported before a bad value in front of it, while a
value that is attached to its name is checked at once.
-/

namespace SpaGateway

namespace CommandLine

/-- What the command line can set. -/
inductive Setting where
  | config
  | target
  | memorySize
  | udpTimeout
  | handshakeTimeout
  | forwardListen
  | dumpTraffic
  | logLevel
  | jsonLogs
  | help
  | version
  deriving DecidableEq, Inhabited

namespace Setting

def all : List Setting :=
  [config, target, memorySize, udpTimeout, handshakeTimeout, forwardListen, dumpTraffic,
    logLevel, jsonLogs, help, version]

/-- The long name of a setting. -/
def name : Setting → String
  | config => "config"
  | target => "spa-target"
  | memorySize => "spa-memory-size"
  | udpTimeout => "spa-udp-timeout"
  | handshakeTimeout => "spa-handshake-timeout"
  | forwardListen => "forward-listen"
  | dumpTraffic => "dump-traffic"
  | logLevel => "log-level"
  | jsonLogs => "json-logs"
  | help => "help"
  | version => "version"

/-- The letter of a setting, if it has one. -/
def letter? : Setting → Option Char
  | config => some 'c'
  | logLevel => some 'l'
  | help => some 'h'
  | version => some 'V'
  | _ => none

/-- Whether a setting needs a value. -/
def takesValue : Setting → Bool
  | dumpTraffic | jsonLogs | help | version => false
  | _ => true

def ofName? (name : List Char) : Option Setting := all.find? (·.name.toList = name)

def ofLetter? (c : Char) : Option Setting := all.find? (·.letter? = some c)

end Setting

/-- Why the arguments were not accepted; asking for help or the version counts as such. -/
inductive UsageError where
  | unknownArgument
  /-- An option has no value, or one that is empty where it must not be. -/
  | invalidValue
  /-- A value is not what its option needs. -/
  | valueValidation
  /-- A setting was given twice. -/
  | argumentConflict
  /-- A flag was given a value. -/
  | tooManyValues
  | displayHelp
  | displayVersion
  deriving DecidableEq, Inhabited

/-- What was given on the command line. -/
structure Options where
  config : Option String := none
  target : Option String := none
  memorySize : Option UInt16 := none
  udpTimeout : Option Nat := none
  handshakeTimeout : Option Nat := none
  forwardListen : Option SocketAddress := none
  dumpTraffic : Bool := false
  logLevel : Option String := none
  jsonLogs : Bool := false
  deriving DecidableEq, Inhabited

namespace Options

/-- Whether a setting was given. -/
def has (o : Options) : Setting → Bool
  | .config => o.config.isSome
  | .target => o.target.isSome
  | .memorySize => o.memorySize.isSome
  | .udpTimeout => o.udpTimeout.isSome
  | .handshakeTimeout => o.handshakeTimeout.isSome
  | .forwardListen => o.forwardListen.isSome
  | .dumpTraffic => o.dumpTraffic
  | .logLevel => o.logLevel.isSome
  | .jsonLogs => o.jsonLogs
  | .help | .version => false

/-- A size: an integer of sixteen bits, which may have a sign. -/
def size? (s : List Char) : Option UInt16 := do
  let n ← Numeral.signed? s
  if 0 ≤ n ∧ n < 65536 then some n.toNat.toUInt16 else none

/-- A number of seconds: a natural number of 64 bits. -/
def seconds? (s : List Char) : Option Nat := Numeral.unsigned? UInt64.size s

/-- Reads a value with a reader that may refuse it. -/
def check {α : Type} (value : Option α) : Except UsageError (Option α) :=
  match value with
  | some a => .ok (some a)
  | none => .error .valueValidation

/-- Gives a setting its value. -/
def assign (o : Options) (setting : Setting) (value : List Char) :
    Except UsageError Options := do
  if o.has setting then throw .argumentConflict
  match setting with
  | .config =>
    if value = [] then throw .invalidValue
    return { o with config := some (String.ofList value) }
  | .target => return { o with target := some (String.ofList value) }
  | .memorySize => return { o with memorySize := ← check (size? value) }
  | .udpTimeout => return { o with udpTimeout := ← check (seconds? value) }
  | .handshakeTimeout => return { o with handshakeTimeout := ← check (seconds? value) }
  | .forwardListen => return { o with forwardListen := ← check (SocketAddress.ofChars? value) }
  | .logLevel => return { o with logLevel := some (String.ofList value) }
  | .dumpTraffic => return { o with dumpTraffic := true }
  | .jsonLogs => return { o with jsonLogs := true }
  | .help => throw .displayHelp
  | .version => throw .displayVersion

end Options

/-! ## Reading arguments -/

/-- What was read so far: the options that count, and the option read last with its value. -/
structure Reading where
  options : Options := {}
  pending : Option (Setting × Option (List Char)) := none
  /-- Whether a double dash ended the options. -/
  ended : Bool := false
  deriving Inhabited

namespace Reading

/-- Lets the option read last count. -/
def settle (r : Reading) : Except UsageError Reading := do
  match r.pending with
  | none => return r
  | some (_, none) => throw .invalidValue
  | some (setting, some value) =>
    return { r with options := ← r.options.assign setting value, pending := none }

/-- Takes a flag, or an option with the value attached to it. -/
def give (r : Reading) (setting : Setting) (value : List Char) : Except UsageError Reading := do
  let r ← r.settle
  return { r with options := ← r.options.assign setting value }

/-- Takes an option whose value comes next. -/
def await (r : Reading) (setting : Setting) : Except UsageError Reading := do
  return { ← r.settle with pending := some (setting, none) }

/-- Takes an argument that begins with two dashes. -/
def readLong (r : Reading) (body : List Char) : Except UsageError Reading :=
  let name := body.takeWhile (· ≠ '=')
  let attached := (body.drop name.length).head?.map fun _ => body.drop (name.length + 1)
  match Setting.ofName? name with
  | none => .error .unknownArgument
  | some setting =>
    match setting.takesValue, attached with
    | true, some value => r.give setting value
    | true, none => r.await setting
    | false, some _ => .error .tooManyValues
    | false, none => r.give setting []

/-- Takes an argument that begins with one dash, letter by letter. -/
def readLetters (r : Reading) : List Char → Except UsageError Reading
  | [] => .ok r
  | c :: rest =>
    match Setting.ofLetter? c with
    | none => .error .unknownArgument
    | some setting =>
      if setting.takesValue then
        match rest with
        | [] => r.await setting
        | '=' :: value => r.give setting value
        | value => r.give setting value
      else do readLetters (← r.give setting []) rest

/-- Takes an argument that begins with no dash, or is only one: the value that is awaited. -/
def readValue (r : Reading) (value : List Char) : Except UsageError Reading :=
  match r.pending with
  | some (setting, none) => .ok { r with pending := some (setting, some value) }
  | _ => .error .unknownArgument

/-- Takes one argument. -/
def step (r : Reading) (argument : String) : Except UsageError Reading :=
  if r.ended then .error .unknownArgument
  else
    match argument.toList with
    | ['-', '-'] => .ok { r with ended := true }
    | '-' :: '-' :: body => r.readLong body
    | ['-'] => r.readValue ['-']
    | '-' :: letters => r.readLetters letters
    | value => r.readValue value

end Reading

/-- Reads the arguments. The environment may name the spa if they do not. -/
def read (arguments : List String) (targetVariable : Option String) :
    Except UsageError Options := do
  let r ← (← arguments.foldlM Reading.step {}).settle
  return { r.options with target := r.options.target <|> targetVariable }

/-! ## Configuration -/

/-- Why no configuration came about. -/
inductive ConfigError where
  /-- The file cannot be read. -/
  | unreadable (path : String)
  /-- The file is no configuration. -/
  | unparsable (path : String)
  | noTarget
  deriving DecidableEq, Inhabited

/-- The text of a configuration error. -/
def ConfigError.message : ConfigError → String
  | unreadable path => "Failed to read config " ++ path
  | unparsable path => "Failed to parse config " ++ path
  | noTarget => "No spa target given (use --spa-target or SPA_TARGET)"

namespace Options

/-- The log level if none is given. -/
def defaultLogLevel : String := "info"

/-- The log level. -/
def level (o : Options) : String := o.logLevel.getD defaultLogLevel

/-- The configuration that the options start from: that of the file, if one is named. The
contents are those of the file, or nothing if it cannot be read. -/
def baseConfig (o : Options) (contents : Option String) : Except ConfigError GatewayConfig :=
  match o.config with
  | none => .ok {}
  | some path =>
    match contents with
    | none => .error (.unreadable path)
    | some text =>
      match GatewayConfig.ofToml? text with
      | none => .error (.unparsable path)
      | some config => .ok config

/-- The options laid over a configuration. -/
def override (o : Options) (c : GatewayConfig) : GatewayConfig :=
  { c with
    target := o.target.getD c.target
    memorySize := o.memorySize <|> c.memorySize
    udpTimeout := o.udpTimeout.getD c.udpTimeout
    handshakeTimeout := o.handshakeTimeout.getD c.handshakeTimeout
    forwardListen := o.forwardListen <|> c.forwardListen
    dumpTraffic := o.dumpTraffic || c.dumpTraffic }

/-- The configuration that the options and the file make together; a spa must be named. -/
def configure (o : Options) (contents : Option String) : Except ConfigError GatewayConfig := do
  let config := o.override (← o.baseConfig contents)
  if Text.trim config.target.toList = [] then throw .noTarget
  return config

end Options

end CommandLine

end SpaGateway

import EngineGateway.Settings.Source

/-!
# Arguments of the program

Arguments are read from left to right.  A flag has a long name after two
hyphens and a letter after one; letters may be written together.  The value of
a flag is the rest of its argument or the argument after it, which then does
not start with a hyphen.  A flag is given once.
-/

namespace EngineGateway.CommandLine

/-- What can be asked for on the command line. -/
inductive Flag where
  | config
  | bind
  | port
  | debug
  | help
  deriving Repr, DecidableEq

namespace Flag

def all : List Flag :=
  [.config, .bind, .port, .debug, .help]

def name : Flag → String
  | .config => "config"
  | .bind => "bind"
  | .port => "port"
  | .debug => "debug"
  | .help => "help"

/-- The letter of a flag, the first one of its name. -/
def letter : Flag → Char
  | .config => 'c'
  | .bind => 'b'
  | .port => 'p'
  | .debug => 'd'
  | .help => 'h'

def takesValue : Flag → Bool
  | .config | .bind | .port => true
  | .debug | .help => false

def purpose : Flag → String
  | .config => "TOML configuration file"
  | .bind => "Address to listen on"
  | .port => "Websocket port"
  | .debug => "Enable debug logging"
  | .help => "Print help"

def named? (text : List Char) : Option Flag :=
  all.find? fun flag => flag.name.toList == text

def lettered? (character : Char) : Option Flag :=
  all.find? fun flag => flag.letter == character

end Flag

/-- What the arguments have set. -/
structure Arguments where
  config : Option String := none
  bind : Option String := none
  port : Option Nat := none
  debug : Bool := false
  deriving Repr, DecidableEq

namespace Arguments

def portOf? (value : String) : Option Nat :=
  match Text.readInt Text.maxInt64 value.toList with
  | .ok (.ofNat port) => if port ≤ Text.maxWord16 then some port else none
  | .ok (.negSucc _) | .error _ => none

/-- Give a value to a flag that has none yet. -/
def give (arguments : Arguments) (flag : Flag) (value : String) : Option Arguments :=
  match flag, arguments with
  | .config, { config := none, .. } =>
      if value.isEmpty then none else some { arguments with config := some value }
  | .bind, { bind := none, .. } => some { arguments with bind := some value }
  | .port, { port := none, .. } =>
      (portOf? value).map fun port => { arguments with port := some port }
  | _, _ => none

def apply (arguments : Arguments) (settings : Settings) : Settings :=
  let settings := arguments.bind.elim settings fun address =>
    { settings with bindAddress := address }
  arguments.port.elim settings fun port => { settings with port := port }

end Arguments

/-- What one argument comes to. -/
inductive Reading where
  | settled (arguments : Arguments)
  /-- The value of a flag must follow. -/
  | awaiting (flag : Flag) (arguments : Arguments)
  | helpWanted
  | misused
  deriving Repr, DecidableEq

namespace Reading

/-- Arguments that may be none. -/
def ofOption : Option Arguments → Reading
  | none => misused
  | some arguments => settled arguments

end Reading

/-- Read the flag of a long name, with its value if one is attached. -/
def readName (arguments : Arguments) (text : List Char) : Reading :=
  match Flag.named? (text.takeWhile (· != '=')), text.dropWhile (· != '=') with
  | some .help, [] => .helpWanted
  | some .debug, [] =>
      if arguments.debug then .misused else .settled { arguments with debug := true }
  | some flag, [] => .awaiting flag arguments
  | some flag, _ :: value =>
      if flag.takesValue then .ofOption (arguments.give flag (String.ofList value))
      else .misused
  | none, _ => .misused

/-- Read letters.  What follows the letter of a flag with a value is the value,
and an equals sign before it does not belong to it. -/
def readLetters (arguments : Arguments) : List Char → Reading
  | [] => .settled arguments
  | character :: rest =>
      match Flag.lettered? character with
      | none => .misused
      | some .help => .helpWanted
      | some .debug =>
          if arguments.debug then .misused
          else readLetters { arguments with debug := true } rest
      | some flag =>
          match rest with
          | [] => .awaiting flag arguments
          | '=' :: value => .ofOption (arguments.give flag (String.ofList value))
          | value => .ofOption (arguments.give flag (String.ofList value))

/-- Read one argument that is no value of a flag before it. -/
def readArgument (arguments : Arguments) (text : String) : Reading :=
  match text.toList with
  | '-' :: '-' :: name => readName arguments name
  | '-' :: character :: letters => readLetters arguments (character :: letters)
  | _ => .misused

/-- The argument can be the value of a flag before it. -/
def isValue (text : String) : Bool :=
  text.toList.head? != some '-' || text == "-"

/-- What the arguments ask for. -/
inductive Wish where
  | run (arguments : Arguments)
  | help
  | misuse
  deriving Repr, DecidableEq

/-- Read arguments after those already read.  Two hyphens alone end the flags,
after which nothing may follow. -/
def readOnto (arguments : Arguments) : List String → Wish
  | [] => .run arguments
  | "--" :: rest => if rest.isEmpty then .run arguments else .misuse
  | text :: rest =>
      match readArgument arguments text with
      | .misused => .misuse
      | .helpWanted => .help
      | .settled arguments => readOnto arguments rest
      | .awaiting flag arguments =>
          match rest with
          | [] => .misuse
          | value :: rest =>
              match if isValue value then arguments.give flag value else none with
              | none => .misuse
              | some arguments => readOnto arguments rest

def read (texts : List String) : Wish :=
  readOnto {} texts

end EngineGateway.CommandLine

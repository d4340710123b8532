import StubServer.Request.Journal

namespace StubServer.Cli

structure Arguments where
  host : Option String
  port : Option Nat
  config : Option String
  verbose : Bool
  journal : Option JournalMode
  deriving DecidableEq, Repr

inductive Command where
  | serve (arguments : Arguments)
  | showHelp
  | showVersion
  | misuse
  deriving DecidableEq, Repr

inductive Setting where
  | host
  | port
  | config
  | journal
  deriving DecidableEq, Repr

inductive Switch where
  | setting (s : Setting)
  | verbose
  | help
  | version
  deriving DecidableEq, Repr

def longNamed? : String → Option Switch
  | "host" => some (.setting .host)
  | "port" => some (.setting .port)
  | "config" => some (.setting .config)
  | "journal" => some (.setting .journal)
  | "verbose" => some .verbose
  | "help" => some .help
  | "version" => some .version
  | _ => none

def shortNamed? : Char → Option Switch
  | 'p' => some (.setting .port)
  | 'c' => some (.setting .config)
  | 'v' => some .verbose
  | 'h' => some .help
  | 'V' => some .version
  | _ => none

def natural? (digits : List Char) : Option Nat :=
  if digits.isEmpty || !digits.all Char.isDigit then none
  else some (digits.foldl (fun n c => 10 * n + (c.toNat - '0'.toNat)) 0)

def port? (text : String) : Option Nat :=
  let n? := match text.toList with
    | '+' :: digits => natural? digits
    | '-' :: digits => (natural? digits).filter (· = 0)
    | digits => natural? digits
  n?.filter (· < 65536)

namespace Arguments

def blank : Arguments := ⟨none, none, none, false, none⟩

def set (a : Arguments) (setting : Setting) (value : String) : Option Arguments :=
  match setting with
  | .host => if a.host.isSome then none else some { a with host := value }
  | .port => if a.port.isSome then none else (port? value).map fun n => { a with port := n }
  | .config =>
    if a.config.isSome || value.isEmpty then none else some { a with config := value }
  | .journal =>
    if a.journal.isSome then none
    else (JournalMode.parse value).toOption.map fun mode => { a with journal := mode }

def complete (a : Arguments) (env : String → Option String) : Option Arguments :=
  let a := { a with host := a.host <|> env "DECOY_HOST" }
  match a.port, env "DECOY_PORT" with
  | none, some value => a.set .port value
  | _, _ => some a

end Arguments

/-- How far the command line has been read: ready for the next option, waiting for the value of one,
past the mark after which there are no options, or done. -/
inductive Parsing where
  | ready (a : Arguments)
  | awaiting (setting : Setting) (a : Arguments)
  | closed (a : Arguments)
  | done (command : Command)

namespace Parsing

def ofArguments : Option Arguments → Parsing
  | some a => .ready a
  | none => .done .misuse

def takeVerbose (a : Arguments) : Option Arguments :=
  if a.verbose then none else some { a with verbose := true }

def takeLong (a : Arguments) (name : String) (attached : Option String) : Parsing :=
  match longNamed? name, attached with
  | some (.setting s), some value => ofArguments (a.set s value)
  | some (.setting s), none => .awaiting s a
  | some .verbose, none => ofArguments (takeVerbose a)
  | some .help, none => .done .showHelp
  | some .version, none => .done .showVersion
  | _, _ => .done .misuse

def takeShort (a : Arguments) : List Char → Parsing
  | [] => .ready a
  | c :: rest =>
    match shortNamed? c, rest with
    | some (.setting s), [] => .awaiting s a
    -- An equals sign before the value does not count.
    | some (.setting s), '=' :: value => ofArguments (a.set s (String.ofList value))
    | some (.setting s), value => ofArguments (a.set s (String.ofList value))
    | some .verbose, rest =>
      match takeVerbose a with
      | some a => takeShort a rest
      | none => .done .misuse
    | some .help, _ => .done .showHelp
    | some .version, _ => .done .showVersion
    | none, _ => .done .misuse

def step (p : Parsing) (word : String) : Parsing :=
  match p with
  | .done command => .done command
  | .closed _ => .done .misuse
  | .awaiting s a =>
    match word.toList with
    -- A single hyphen is a value.
    | '-' :: _ :: _ => .done .misuse
    | _ => ofArguments (a.set s word)
  | .ready a =>
    match word.toList with
    | ['-', '-'] => .closed a
    | '-' :: '-' :: rest =>
      let name := rest.takeWhile (· != '=')
      takeLong a (String.ofList name)
        ((rest.drop name.length).tail?.map String.ofList)
    | '-' :: c :: rest => takeShort a (c :: rest)
    | _ => .done .misuse

def finish (env : String → Option String) : Parsing → Command
  | .done command => command
  | .awaiting .. => .misuse
  | .ready a | .closed a =>
    match a.complete env with
    | some a => .serve a
    | none => .misuse

end Parsing

def Command.parse (words : List String) (env : String → Option String) : Command :=
  (words.foldl Parsing.step (.ready .blank)).finish env

def versionText : String := "decoy 0.1.0"

def helpText (env : String → Option String) : String :=
  let fromEnvironment (name : String) :=
    " [env: " ++ name ++ "=" ++ (env name).getD "" ++ "]\n"
  "HTTP mock server with declarative stubs\n\n"
    ++ "Usage: decoy [OPTIONS]\n\n"
    ++ "Options:\n"
    ++ "      --host <HOST>        Interface to bind" ++ fromEnvironment "DECOY_HOST"
    ++ "  -p, --port <PORT>        Port to bind (0 picks a free port)" ++ fromEnvironment "DECOY_PORT"
    ++ "  -c, --config <CONFIG>    Stub file (YAML, or JSON with a .json extension)\n"
    ++ "  -v, --verbose            Log match details for every request\n"
    ++ "      --journal <JOURNAL>  Request journal mode: lean or full\n"
    ++ "  -h, --help               Print help\n"
    ++ "  -V, --version            Print version\n"

end StubServer.Cli

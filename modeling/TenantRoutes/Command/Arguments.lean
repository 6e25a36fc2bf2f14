import TenantRoutes.Json.Printer
/-! The arguments of the command line. Options of the whole program come first, then the name of a
command, then the options of the command. An option may be given once; a value may be joined to
its option or follow as the next argument, where it may not look like an option. -/
namespace TenantRoutes

/-- What the program is asked to do. -/
inductive Command where
  /-- Print the routes or write them to a file, of all sites or of one. -/
  | compile (site : Option String) (layout : Json.Layout) (output : Option String)
  /-- Say whether the policy is valid. -/
  | check
  /-- Write the routes to a file whenever the policy changes. -/
  | watch (output : String) (layout : Json.Layout)
deriving DecidableEq

structure Invocation where
  /-- The path of the policy. -/
  config : String := "sites.toml"
  command : Command
deriving DecidableEq

/-- What a command line comes to. -/
inductive Request where
  | run (invocation : Invocation)
  | help
  | malformed
deriving DecidableEq

namespace Arguments

/-- What the value of an option has to be. -/
inductive Kind where
  | flag
  | text
  /-- A text that is not empty. -/
  | path
deriving DecidableEq

structure OptionForm where
  long : String
  short : Option Char := none
  kind : Kind

/-- The options that were given, with their values. -/
abbrev Given := List (String × String)

/-- What the options at the front of a list of arguments come to: the options given and the
arguments from the first on that is no option. -/
inductive Scan where
  | given (given : Given) (rest : List String)
  | help
  | malformed

/-- Take an option with its value into account. -/
def accept (given : Given) (option : OptionForm) (value : String) : Option Given :=
  if given.any (·.1 == option.long) || (option.kind == .path && value.isEmpty) then none
  else some (given ++ [(option.long, value)])

/-- Whether an argument looks like an option. A single hyphen does not. -/
def looksLikeOption (argument : String) : Bool :=
  match argument.toList with
  | '-' :: _ :: _ => true
  | _ => false

/-- Read the options at the front of a list of arguments. -/
def scan (options : List OptionForm) (given : Given) : List String → Scan
  | [] => .given given []
  | argument :: rest =>
    let next (option : OptionForm) : Scan :=
      match rest with
      | value :: later =>
        if looksLikeOption value then .malformed
        else
          match accept given option value with
          | some given => scan options given later
          | none => .malformed
      | [] => .malformed
    let joined (option : OptionForm) (value : List Char) : Scan :=
      match accept given option (String.ofList value) with
      | some given => scan options given rest
      | none => .malformed
    match argument.toList with
    | ['-', '-'] => if rest.isEmpty then .given given [] else .malformed
    | '-' :: '-' :: body =>
      let (name, value) := body.span (· != '=')
      if name == ['h', 'e', 'l', 'p'] then (if value.isEmpty then .help else .malformed)
      else
        match options.find? fun option => option.long.toList == name with
        | none => .malformed
        | some option =>
          match option.kind, value with
          | .flag, [] => joined option []
          | .flag, _ :: _ => .malformed
          | _, _ :: value => joined option value
          | _, [] => next option
    | '-' :: letter :: body =>
      if letter == 'h' then .help
      else
        match options.find? fun option => option.short == some letter with
        | none => .malformed
        | some option =>
          match body with
          | [] => next option
          | '=' :: value => joined option value
          | value => joined option value
    | _ => .given given (argument :: rest)

def value? (given : Given) (name : String) : Option String :=
  (given.find? (·.1 == name)).map (·.2)

def layout (given : Given) : Json.Layout :=
  if (value? given "pretty").isSome then .pretty else .compact

def configOption : OptionForm := { long := "config", short := some 'c', kind := .path }
def siteOption : OptionForm := { long := "site", kind := .text }
def prettyOption : OptionForm := { long := "pretty", kind := .flag }
def outputOption : OptionForm := { long := "output", short := some 'o', kind := .path }

/-- The request of a command with its own options, after which nothing may follow. -/
def commandRequest (config : Option String) (options : List OptionForm) (arguments : List String)
    (command? : Given → Option Command) : Request :=
  match scan options [] arguments with
  | .given given [] =>
    match command? given with
    | some command =>
      match config with
      | some config => .run { config, command }
      | none => .run { command }
    | none => .malformed
  | .given _ (_ :: _) | .malformed => .malformed
  | .help => .help

def commandNames : List String := ["compile", "check", "watch", "help"]

/-- Help may be asked for one command. -/
def helpRequest : List String → Request
  | [] => .help
  | [name] => if name ∈ commandNames then .help else .malformed
  | _ => .malformed

/-- The request of a command line. -/
def parse (arguments : List String) : Request :=
  match scan [configOption] [] arguments with
  | .malformed | .given _ [] => .malformed
  | .help => .help
  | .given given (name :: rest) =>
    let config := value? given "config"
    match name with
    | "compile" =>
      commandRequest config [siteOption, prettyOption, outputOption] rest fun given =>
        some (.compile (value? given "site") (layout given) (value? given "output"))
    | "check" => commandRequest config [] rest fun _ => some .check
    | "watch" =>
      commandRequest config [outputOption, prettyOption] rest fun given =>
        (value? given "output").map fun output => .watch output (layout given)
    | "help" => helpRequest rest
    | _ => .malformed

end Arguments

end TenantRoutes

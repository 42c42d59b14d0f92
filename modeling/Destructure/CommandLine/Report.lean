import Destructure.CommandLine.Basic
import Destructure.Config.Document
import Destructure.Domain
import Destructure.MatchExpr.Evaluation
import Destructure.Registry.Loader

set_option autoImplicit false

/-! # Answering command lines

What the program answers to a command, once the file that the command names has been read. -/

namespace Destructure

/-- The answer of the program. -/
structure Report where
  exitCode : Nat
  output : String
  errors : String
deriving DecidableEq

/-- Lines of text, each with its end. -/
def unlines (lines : List String) : String := String.join (lines.map (· ++ "\n"))

namespace Report

def success (lines : List String) : Report := ⟨0, unlines lines, ""⟩

def failure (message : String) : Report := ⟨1, "", unlines ["error: " ++ message]⟩

end Report

/-- How the program is used. -/
def usage : List String :=
  ["Usage: pmatch <command> [options]",
    "",
    "Commands:",
    "  eval <config> --subject <json> [--scope <json>]   Evaluate a match expression",
    "  check <config>                                    Validate config",
    "  info                                              Print registered names",
    "  help                                              Show this help",
    "",
    "Environment:",
    "  PMATCH_LOG   log filter (default: warn), e.g. PMATCH_LOG=pmatch=trace"]

/-- The answer to arguments that cannot be understood. -/
def ArgumentError.report (e : ArgumentError) : Report :=
  let complaint := match e.message? with
    | some message => ["error: " ++ message]
    | none => []
  ⟨1, "", unlines (complaint ++ if e.wantsUsage then usage else [])⟩

/-! ## Files -/

/-- The extension of a file name: what follows its last dot, unless nothing stands before it. -/
def extension? (name : List Char) : Option (List Char) :=
  let reversed := name.reverse
  let extension := reversed.takeWhile (· != '.')
  match reversed.drop extension.length with
  | '.' :: _ :: _ => some extension.reverse
  | _ => none

/-- The last name of a path. -/
def fileName (path : List Char) : List Char :=
  ((path.reverse.dropWhile (· == '/')).takeWhile (· != '/')).reverse

/-- The notation of a file, by its extension. -/
def dialectOf (path : String) : Json.Dialect :=
  match extension? (fileName path.toList) with
  | some extension =>
    if extension.map Char.toLower = ['j', 's', 'o', 'n'] then .json else .yaml
  | none => .yaml

/-- The name of a notation. -/
def dialectName : Json.Dialect → String
  | .json => "JSON"
  | .yaml => "YAML"

/-- Why a command fails. -/
inductive CommandError where
  | unreadable (path reason : String)
  | malformed (dialect : Json.Dialect) (cause : DocumentError)
  /-- The expression to evaluate cannot be loaded. -/
  | unloadable (cause : PatternError)
  /-- The expression to check cannot be loaded. -/
  | invalid (cause : PatternError)
  | evaluation (cause : MatchError)

def CommandError.message : CommandError → String
  | .unreadable path reason => "failed to read \"" ++ path ++ "\": " ++ reason
  | .malformed dialect cause => dialectName dialect ++ " parse error: " ++ cause.message
  | .unloadable cause => "config load failed: " ++ cause.message
  | .invalid cause => "config invalid: " ++ cause.message
  | .evaluation cause => cause.message

/-- The configuration in the content of a file. -/
def loadConfig (path : String) (content : Except String String) :
    Except CommandError (MatchConfig String) := do
  let text ← content.mapError (.unreadable path)
  let dialect := dialectOf path
  (decodeText dialect (MatchConfig.ofJson dialect) text).mapError (.malformed dialect)

/-! ## Commands -/

/-- The selection of a match expression for the subject and the scope of the options. -/
def EvalOptions.select (library : Regex.Library) (options : EvalOptions)
    (config : MatchConfig String) : Except CommandError (Selection String) := do
  let expr ← (Domain.registry.loadMatch library config).mapError .unloadable
  ((expr.evaluate (Value.ofJson options.subject) (.ofBindings options.scope)).result).mapError
    .evaluation

/-- A title with indented names below it. -/
def namesUnder (title : String) (names : List String) : List String :=
  (title ++ ":") :: names.map ("  " ++ ·)

/-- The names of a registry by table. -/
def Registry.listing (r : Registry) : List String :=
  List.intercalate [""] [
    namesUnder "Registered extractors" r.extractors.names,
    namesUnder "Registered predicates" r.predicates.names,
    namesUnder "Registered guards" r.guards.names,
    namesUnder "Registered constants" r.constants.names]

namespace Command

variable (library : Regex.Library)

/-- The lines that a command prints, given the content of its file. -/
def answer (command : Command) (content : Except String String) :
    Except CommandError (List String) :=
  match command with
  | .eval path options => do
    let config ← loadConfig path content
    let selection ← options.select library config
    return [selection.body, selection.bindings.toValue.toJson.compact]
  | .check path => do
    let config ← loadConfig path content
    let _ ← (Domain.registry.loadMatch library config).mapError CommandError.invalid
    return ["Config valid"]
  | .info => .ok Domain.registry.listing
  | .help => .ok []

/-- The answer to a command, given the content of its file. -/
def report (command : Command) (content : Except String String) : Report :=
  match command, command.answer library content with
  | .help, _ => ⟨0, "", unlines usage⟩
  | _, .ok lines => .success lines
  | _, .error e => .failure e.message

end Command

end Destructure

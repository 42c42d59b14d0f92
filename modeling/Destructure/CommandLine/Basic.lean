import Destructure.Bindings
import Destructure.Json.Reader
import Destructure.Value.Plain

set_option autoImplicit false

/-! # Command lines

What the program is asked to do. Options of an evaluation come in pairs of a flag and its value, in
any order; of a flag that is given twice the last value counts. A word in the place of a value is
always a value, whatever it looks like. -/

namespace Destructure

/-- Why arguments cannot be understood. -/
inductive ArgumentError where
  | missingCommand
  | unknownCommand (name : String)
  | missingPath (command : String)
  | missingValue (flag : String)
  | invalidSubject (raw : String) (cause : Json.ReadError)
  /-- The scope is not an object; there is a cause when it is no data at all. -/
  | invalidScope (raw : String) (cause : Option Json.ReadError)
  | unexpected (argument : String)
  | missingSubject

namespace ArgumentError

/-- What to say, if there is anything to say. -/
def message? : ArgumentError → Option String
  | .missingCommand => none
  | .unknownCommand name => some ("unknown command \"" ++ name ++ "\"")
  | .missingPath command => some (command ++ " requires a config file path")
  | .missingValue flag => some (flag ++ " requires a JSON value")
  | .invalidSubject raw cause =>
    some ("invalid --subject JSON \"" ++ raw ++ "\": " ++ cause.message)
  | .invalidScope raw cause =>
    some ("invalid --scope \"" ++ raw ++ "\", expected a JSON object: "
      ++ (cause.map Json.ReadError.message).getD "not an object")
  | .unexpected argument => some ("unexpected argument \"" ++ argument ++ "\"")
  | .missingSubject => some "eval requires --subject <json>"

/-- Whether the usage of the program should follow. -/
def wantsUsage : ArgumentError → Bool
  | .missingCommand => true
  | .unknownCommand _ => true
  | _ => false

end ArgumentError

/-- What to evaluate a match expression on. -/
structure EvalOptions where
  subject : Json
  scope : Bindings

namespace EvalOptions

/-- A way to read data from text. -/
abbrev DataReader := String → Except Json.ReadError Json

/-- The value of the subject flag. -/
def readSubject (reader : DataReader) (raw : String) : Except ArgumentError Json :=
  (reader raw).mapError (.invalidSubject raw)

/-- The value of the scope flag. -/
def readScope (reader : DataReader) (raw : String) : Except ArgumentError Bindings :=
  match reader raw with
  | .ok (.object entries) => .ok (.ofList (Value.ofFields entries))
  | .ok _ => .error (.invalidScope raw none)
  | .error cause => .error (.invalidScope raw (some cause))

/-- The options given by arguments, after a subject and a scope that were given before. -/
def parseAfter (reader : DataReader) (subject : Option Json) (scope : Bindings) :
    List String → Except ArgumentError EvalOptions
  | [] =>
    match subject with
    | some subject => .ok ⟨subject, scope⟩
    | none => .error .missingSubject
  | [flag] =>
    if flag = "--subject" ∨ flag = "--scope" then .error (.missingValue flag)
    else .error (.unexpected flag)
  | flag :: raw :: rest =>
    if flag = "--subject" then do
      let subject ← readSubject reader raw
      parseAfter reader (some subject) scope rest
    else if flag = "--scope" then do
      let scope ← readScope reader raw
      parseAfter reader subject scope rest
    else .error (.unexpected flag)

/-- The options given by arguments. -/
def parse (reader : DataReader) (args : List String) : Except ArgumentError EvalOptions :=
  parseAfter reader none .empty args

end EvalOptions

/-- What the program is asked to do. -/
inductive Command where
  | eval (path : String) (options : EvalOptions)
  | check (path : String)
  | info
  | help

namespace Command

/-- The command of arguments, without the name of the program. -/
def parse (args : List String) : Except ArgumentError Command :=
  match args with
  | [] => .error .missingCommand
  | name :: rest =>
    if name = "eval" then
      match rest with
      | [] => .error (.missingPath name)
      | path :: rest => .eval path <$> EvalOptions.parse (Json.readSettled .json) rest
    else if name = "check" then
      match rest with
      | [] => .error (.missingPath name)
      | path :: _ => .ok (.check path)
    else if name = "info" then .ok .info
    else if name = "help" ∨ name = "-h" ∨ name = "--help" then .ok .help
    else .error (.unknownCommand name)

/-- The file that has to be read. -/
def path? : Command → Option String
  | .eval path _ => some path
  | .check path => some path
  | .info => none
  | .help => none

end Command

end Destructure

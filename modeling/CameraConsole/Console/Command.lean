import CameraConsole.Operation.Answer
import CameraConsole.Text.Numeral
import CameraConsole.Text.Quoted

/-!
# Commands of the console

How the arguments of the command line are read.
-/

namespace CameraConsole

/-- What can be wrong with the arguments. -/
inductive UsageFault where
  | missingValue (option : String)
  | missingArgument (name : String)
  | notANumber (what raw : String) (fault : Text.NumeralFault)
  | noChanges
  | notAChange (raw : String)
  | unknownCommand (name : String)
  deriving DecidableEq

def UsageFault.message : UsageFault → String
  | missingValue option => option ++ " requires a value"
  | missingArgument name => "missing <" ++ name ++ "> argument"
  | notANumber what raw fault =>
    what ++ " id must be a number, got " ++ Text.quote raw ++ ": " ++ fault.message
  | noChanges => "patch needs at least one <param=value>"
  | notAChange raw => "expected <param=value>, got " ++ Text.quote raw
  | unknownCommand name => "unknown command: " ++ name ++ " (see `motion-console help`)"

/-! ## Options -/

structure Options where
  url : Option String := none
  user : Option String := none
  password : Option String := none
  deriving DecidableEq, Repr

namespace Options

/-- Sets the option of this name; none when there is no such option. -/
def set? (o : Options) (name value : String) : Option Options :=
  if name = "--url" then some { o with url := some value }
  else if name = "--user" then some { o with user := some value }
  else if name = "--password" then some { o with password := some value }
  else none

def isOption (name : String) : Bool :=
  name = "--url" || name = "--user" || name = "--password"

/-- Reads options up to the first argument that is none, and gives the arguments that are left. -/
def read (o : Options) : List String → Except UsageFault (Options × List String)
  | [] => .ok (o, [])
  | [name] => if isOption name then .error (.missingValue name) else .ok (o, [name])
  | name :: value :: rest =>
    match o.set? name value with
    | some o => o.read rest
    | none => .ok (o, name :: value :: rest)

end Options

/-! ## Arguments -/

def positional (args : List String) (index : Nat) (name : String) : Except UsageFault String :=
  match args[index]? with
  | some arg => .ok arg
  | none => .error (.missingArgument name)

/-- The number of something, at most `limit`. -/
def numeralArgument (name what : String) (limit : Nat) (args : List String) (index : Nat) :
    Except UsageFault Nat := do
  let raw ← positional args index name
  (Text.readNumeral limit raw).mapError (.notANumber what raw)

def cameraArgument (args : List String) (index : Nat) : Except UsageFault UInt32 :=
  (numeralArgument "cam" "camera" Text.max32 args index).map UInt32.ofNat

def mediaArgument (args : List String) (index : Nat) : Except UsageFault UInt64 :=
  (numeralArgument "id" "media" Text.max64 args index).map UInt64.ofNat

/-- A change, split at the first equals sign. -/
def readChange (raw : String) : Except UsageFault (String × Json) :=
  match raw.toList.dropWhile (· ≠ '=') with
  | [] => .error (.notAChange raw)
  | _ :: value =>
    .ok (String.ofList (raw.toList.takeWhile (· ≠ '=')), .text (String.ofList value))

def readChangeList : List String → Except UsageFault (List (String × Json))
  | [] => .ok []
  | raw :: rest => do
    let change ← readChange raw
    let changes ← readChangeList rest
    .ok (change :: changes)

/-- The changes of a patch, in the order of parameters; of changes to the same parameter the last
counts. -/
def readChanges (args : List String) : Except UsageFault (List (String × Json)) :=
  match args with
  | [] => .error .noChanges
  | _ => do .ok (Json.orderMembers (← readChangeList args))

/-- The operation that a command asks for. -/
def Operation.ofCommand (command : String) (args : List String) : Except UsageFault Operation :=
  match command with
  | "cameras" => .ok .cameras
  | "pictures" => do .ok (.pictures (← cameraArgument args 0))
  | "movies" => do .ok (.movies (← cameraArgument args 0))
  | "temperature" => .ok .temperature
  | "status" => .ok .systemStatus
  | "auth" => .ok .authStatus
  | "config" => .ok .config
  | "set" => do
    let cam ← cameraArgument args 0
    let param ← positional args 1 "param"
    let value ← positional args 2 "value"
    .ok (.setParameter cam param value)
  | "patch" => do
    let cam ← cameraArgument args 0
    let changes ← readChanges (args.drop 1)
    .ok (.patchConfig cam changes)
  | "delete-picture" => do
    let cam ← cameraArgument args 0
    let id ← mediaArgument args 1
    .ok (.deletePicture cam id)
  | "delete-movie" => do
    let cam ← cameraArgument args 0
    let id ← mediaArgument args 1
    .ok (.deleteMovie cam id)
  | "reboot" => .ok .reboot
  | "shutdown" => .ok .shutdown
  | other => .error (.unknownCommand other)

end CameraConsole

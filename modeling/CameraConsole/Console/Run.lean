import CameraConsole.Client.Builder
import CameraConsole.Console.Command
import CameraConsole.LogFilter

/-!
# Running the console

A run reads its arguments, performs one operation and shows the answer, or tells why it could not.
-/

namespace CameraConsole.Console

def usage : String :=
  "motion-console: Motion camera daemon console

USAGE:
    motion-console [OPTIONS] <COMMAND> [ARGS]

OPTIONS:
    --url <base>            Daemon base URL (default: $MOTION_BASE_URL or http://localhost:8080)
    --user <name>           Username for webcontrol authentication
    --password <pass>       Password for webcontrol authentication

COMMANDS:
    cameras                         List configured cameras
    pictures <cam>                  List snapshots of a camera
    movies <cam>                    List movies of a camera
    temperature                     Show CPU temperature
    status                          Show system status (uptime, memory, disk)
    auth                            Show authentication status
    config                          Dump daemon configuration
    set <cam> <param> <value>       Set one configuration parameter
    patch <cam> <param=value>...    Apply several parameters at once
    delete-picture <cam> <id>       Delete a snapshot
    delete-movie <cam> <id>         Delete a movie
    reboot                          Reboot the host
    shutdown                        Power off the host
    version                         Show version information
    help                            Show this help message

ENVIRONMENT:
    MOTION_BASE_URL, MOTION_USER, MOTION_PASSWORD,
    MOTION_HTTP_TIMEOUT_MS, MOTION_RETRY_BASE_DELAY_MS, MOTION_PROXY_URL
    RUST_LOG                        Log filter (default: warn)
"

def version : String :=
  "motion-console 0.1.0\n"

/-- What a run leaves behind: its exit code, its two outputs, and the world. -/
structure Outcome where
  exit : Nat
  stdout : String
  /-- The program's own lines, with those of its log that the environment lets through. What the
  libraries beneath it log is not part of this. -/
  stderr : String
  world : World

/-- Why a run fails: its arguments or what it did. -/
inductive Trouble where
  | usage (fault : UsageFault)
  | failure (failure : Failure)

def Trouble.text : Trouble → String
  | .usage fault => "Error: " ++ fault.message ++ "\n"
  | .failure f => "Error: " ++ f.userMessage ++ "\n"

/-- Fetches the configuration, so that the operation already has a token. Without one it goes on. -/
def prime (c : Client) (w : World) : World :=
  match c.daemonConfig w with
  | (.ok _, w) => w
  | (.error failure, w) => w.note (.noToken failure)

/-- Performs an operation; one that changes something is primed. -/
def operate (o : Operation) (c : Client) (w : World) : Except Failure Answer × World :=
  o.perform c (if o.mutating then prime c w else w)

def dispatch (c : Client) (command : String) (args : List String) (w : World) :
    Except Trouble Answer × World :=
  match Operation.ofCommand command args with
  | .error fault => (.error (.usage fault), w)
  | .ok o =>
    let (result, w) := operate o c w
    (result.mapError .failure, w)

/-- The warning about a notice. -/
def warning : Notice → LogEvent
  | .event e => .credentialsNeeded e.status
  | .lagged n => .eventsMissed n

/-- Receives what waits for a subscriber and warns about it. -/
def report (id : Nat) (w : World) : World :=
  let (notices, channel) := w.context.channel.drain id
  (notices.map warning).foldl World.note (w.adjust ({ · with channel }))

/-- The client of a run: the options come after the environment. -/
def builder (env : Environment) (o : Options) : Builder :=
  (Builder.ofEnvironment env).applyAll <|
    (o.url.map BuildStep.baseUrl).toList ++
      (o.user.map fun user => BuildStep.basicAuth ⟨user, o.password.getD ""⟩).toList

/-- Runs a command in a fresh context. -/
def runCommand (env : Environment) (o : Options) (command : String) (args : List String)
    (link : Link) : Except Trouble Answer × World :=
  let w := World.ofLink link
  match (builder env o).build w.context with
  | .error failure => (.error (.failure failure), w)
  | .ok (c, context) =>
    let (id, channel) := context.channel.subscribe
    let (result, w) := dispatch c command args { w with context := { context with channel } }
    (result, report id w)

/-- The lines of the events that the filter of the environment shows. -/
def logText (env : Environment) (log : List LogEvent) : String :=
  String.join ((log.filter (LogFilter.ofEnvironment env).shows).map LogEvent.line)

def run (env : Environment) (args : List String) (link : Link) : Outcome :=
  let stay (exit : Nat) (stdout stderr : String) : Outcome :=
    { exit, stdout, stderr, world := World.ofLink link }
  match Options.read {} args with
  | .error fault => stay 1 "" ((Trouble.usage fault).text ++ "\n" ++ usage)
  | .ok (_, []) => stay 1 "" usage
  | .ok (o, command :: rest) =>
    if command ∈ ["version", "--version", "-V"] then stay 0 version ""
    else if command ∈ ["help", "--help", "-h"] then stay 0 usage ""
    else
      match runCommand env o command rest link with
      | (.ok answer, w) =>
        { exit := 0, stdout := answer.toJson.renderIndented ++ "\n",
          stderr := logText env w.journal.log, world := w }
      | (.error trouble, w) =>
        { exit := 1, stdout := "", stderr := logText env w.journal.log ++ trouble.text, world := w }

end CameraConsole.Console

import CameraConsole.Status
import CameraConsole.Text.Blank
import CameraConsole.Text.Numeral

/-!
# Settings of a client

Defaults, and the variables of the environment that override them. Times are in milliseconds.
-/

namespace CameraConsole

/-- The variables of an environment with their values. -/
abbrev Environment := List (String × String)

structure ClientConfig where
  baseUrl : String := "http://localhost:8080"
  /-- The limit for one attempt, its body included. -/
  timeout : Nat := 10000
  maxRetries : Nat := 1
  /-- The delay before the first retry. -/
  retryBaseDelay : Nat := 1000
  retryableStatuses : List Nat := KnownStatus.retryableCodes
  poolMaxIdlePerHost : Nat := 8
  proxyUrl : Option String := none
  deriving DecidableEq, Repr

namespace ClientConfig

/-- A variable that holds a number; blanks around it do not count, and what is no number is as good
as absent. -/
def numberVariable (env : Environment) (name : String) : Option Nat :=
  (env.lookup name).bind fun s => (Text.readNumeral Text.max64 (Text.trim s)).toOption

def ofEnvironment (env : Environment) : ClientConfig :=
  let defaults : ClientConfig := {}
  { defaults with
    baseUrl := (env.lookup "MOTION_BASE_URL").getD defaults.baseUrl
    timeout := ((numberVariable env "MOTION_HTTP_TIMEOUT_MS").filter (0 < ·)).getD defaults.timeout
    retryBaseDelay :=
      (numberVariable env "MOTION_RETRY_BASE_DELAY_MS").getD defaults.retryBaseDelay
    poolMaxIdlePerHost :=
      (numberVariable env "MOTION_HTTP_POOL_MAX_IDLE_PER_HOST").getD defaults.poolMaxIdlePerHost
    proxyUrl := (env.lookup "MOTION_PROXY_URL").filter (· ≠ "") }

end ClientConfig

/-- The text of a time: seconds with the milliseconds as a fraction, or milliseconds alone. -/
def durationText (ms : Nat) : String :=
  if ms = 0 then "0ns"
  else if ms < 1000 then toString ms ++ "ms"
  else
    let digits := Nat.toDigits 10 (1000 + ms % 1000)
    let fraction := (digits.drop 1).reverse.dropWhile (· = '0') |>.reverse
    toString (ms / 1000) ++ (if fraction = [] then "" else "." ++ String.ofList fraction) ++ "s"

end CameraConsole

import CameraConsole.Console.Run

/-!
# The console

Runs the console on the arguments and the environment of the process. The process has no network of
its own, so the daemon is out of reach.
-/

namespace CameraConsole

/-- The variables that the console looks at. -/
def variableNames : List String :=
  ["MOTION_BASE_URL", "MOTION_USER", "MOTION_PASSWORD", "MOTION_HTTP_TIMEOUT_MS",
    "MOTION_RETRY_BASE_DELAY_MS", "MOTION_HTTP_POOL_MAX_IDLE_PER_HOST", "MOTION_PROXY_URL",
    "RUST_LOG"]

def readEnvironment : IO Environment :=
  variableNames.filterMapM fun name => do
    return (← IO.getEnv name).map (name, ·)

end CameraConsole

def main (args : List String) : IO UInt32 := do
  let env ← CameraConsole.readEnvironment
  let outcome := CameraConsole.Console.run env args ⟨.unreachable, []⟩
  (← IO.getStdout).putStr outcome.stdout
  (← IO.getStderr).putStr outcome.stderr
  return UInt32.ofNat outcome.exit

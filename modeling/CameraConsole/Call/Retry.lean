import CameraConsole.Client.Config

/-!
# Retries

When a failed attempt is repeated, and after which delay.
-/

namespace CameraConsole

/-- The longest time that can be waited for, in milliseconds. -/
def longestDelay : Nat := Text.max64 * 1000 + 999

/-- The delay before the retry that follows `retryCount` others grows linearly. -/
def ClientConfig.backoff (c : ClientConfig) (retryCount : Nat) : Nat :=
  min (c.retryBaseDelay * (retryCount + 1)) longestDelay

end CameraConsole

import CameraConsole.Http.Exchange
import CameraConsole.Log

/-!
# Worlds

The state that calls work on: the shared context, the link to the daemon, and a journal of what
happened.
-/

namespace CameraConsole

/-- An attempt that was made. -/
structure Attempt where
  dispatch : Dispatch
  retryCount : Nat
  exchange : Exchange

/-- What happened, in order. It only grows. -/
structure Journal where
  attempts : List Attempt := []
  sent : List Message := []
  log : List LogEvent := []
  /-- The auth events that were announced, heard or not. -/
  announced : List AuthEvent := []
  /-- Milliseconds that passed. -/
  elapsed : Nat := 0

structure World where
  context : Context
  link : Link
  /-- The number of the next call. -/
  nextCall : Nat := 0
  journal : Journal := {}

namespace World

def ofLink (link : Link) : World :=
  { context := .empty, link }

/-- The world with a fresh journal. -/
def freshJournal (w : World) : World :=
  { w with journal := {} }

def note (w : World) (e : LogEvent) : World :=
  { w with journal := { w.journal with log := w.journal.log ++ [e] } }

def wait (w : World) (ms : Nat) : World :=
  { w with journal := { w.journal with elapsed := w.journal.elapsed + ms } }

/-- Changes the context. -/
def adjust (w : World) (f : Context → Context) : World :=
  { w with context := f w.context }

/-- Announces that the daemon demanded authentication. -/
def announce (w : World) (status : Nat) : World :=
  let w' : World :=
    { w with
      context := { w.context with channel := w.context.channel.publish ⟨status⟩ }
      journal := { w.journal with announced := w.journal.announced ++ [⟨status⟩] } }
  if w.context.channel.subscribers = [] then w'.note (.unheard status) else w'

/-- Makes an attempt and writes it down. -/
def transmit (w : World) (c : Client) (d : Dispatch) (retryCount : Nat) :
    Except Failure Response × World :=
  let x := c.exchange d w.link
  (x.outcome,
    { w with
      link := { w.link with replies := x.replies }
      journal := { w.journal with
        attempts := w.journal.attempts ++ [⟨d, retryCount, x⟩]
        sent := w.journal.sent ++ x.sent
        elapsed := w.journal.elapsed + x.duration } })

end World

end CameraConsole

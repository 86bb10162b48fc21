import CameraConsole.World

/-!
# Journals that grow

Whatever happens to a world leaves a context and replies behind, and adds a journal to what was
written before. The operations on worlds are stated in these terms.
-/

namespace CameraConsole

namespace Journal

instance : Append Journal where
  append j k :=
    { attempts := j.attempts ++ k.attempts
      sent := j.sent ++ k.sent
      log := j.log ++ k.log
      announced := j.announced ++ k.announced
      elapsed := j.elapsed + k.elapsed }

@[simp] theorem append_attempts (j k : Journal) : (j ++ k).attempts = j.attempts ++ k.attempts := rfl

@[simp] theorem append_sent (j k : Journal) : (j ++ k).sent = j.sent ++ k.sent := rfl

@[simp] theorem append_log (j k : Journal) : (j ++ k).log = j.log ++ k.log := rfl

@[simp] theorem append_announced (j k : Journal) :
    (j ++ k).announced = j.announced ++ k.announced := rfl

@[simp] theorem append_elapsed (j k : Journal) : (j ++ k).elapsed = j.elapsed + k.elapsed := rfl

theorem ext_fields {j k : Journal} (attempts : j.attempts = k.attempts) (sent : j.sent = k.sent)
    (log : j.log = k.log) (announced : j.announced = k.announced)
    (elapsed : j.elapsed = k.elapsed) : j = k := by
  cases j; cases k; simp_all

theorem append_assoc (i j k : Journal) : i ++ j ++ k = i ++ (j ++ k) := by
  apply ext_fields <;> simp [Nat.add_assoc]

@[simp] theorem append_empty (j : Journal) : j ++ ({} : Journal) = j := by
  apply ext_fields <;> simp

@[simp] theorem empty_append (j : Journal) : ({} : Journal) ++ j = j := by
  apply ext_fields <;> simp

/-- Announces events, which the log mentions when nobody hears them. -/
def announcing (heard : Bool) (es : List AuthEvent) : Journal :=
  { announced := es, log := if heard then [] else es.map fun e => .unheard e.status }

@[simp] theorem announcing_nil (heard : Bool) : announcing heard [] = {} := by
  simp [announcing]

@[simp] theorem announcing_attempts (heard : Bool) (es : List AuthEvent) :
    (announcing heard es).attempts = [] := rfl

@[simp] theorem announcing_sent (heard : Bool) (es : List AuthEvent) :
    (announcing heard es).sent = [] := rfl

@[simp] theorem announcing_announced (heard : Bool) (es : List AuthEvent) :
    (announcing heard es).announced = es := rfl

end Journal

namespace Channel

def heard (c : Channel) : Bool := c.subscribers ≠ []

@[simp] theorem heard_publish (c : Channel) (e : AuthEvent) : (c.publish e).heard = c.heard := by
  unfold publish heard
  split <;> rfl

@[simp] theorem heard_foldl_publish (es : List AuthEvent) (c : Channel) :
    (es.foldl publish c).heard = c.heard := by
  induction es generalizing c with
  | nil => rfl
  | cons e es ih => simp [ih]

end Channel

namespace World

/-- The world after something that left this context and these replies, and that is told by `j`. -/
def advance (w : World) (context : Context) (replies : List Reply) (j : Journal) : World :=
  { w with context, link := { w.link with replies }, journal := w.journal ++ j }

variable (w : World) (context : Context) (replies : List Reply) (j : Journal)

@[simp] theorem advance_context : (w.advance context replies j).context = context := rfl

@[simp] theorem advance_link : (w.advance context replies j).link = { w.link with replies } := rfl

@[simp] theorem advance_nextCall : (w.advance context replies j).nextCall = w.nextCall := rfl

@[simp] theorem advance_journal : (w.advance context replies j).journal = w.journal ++ j := rfl

theorem adjust_eq (f : Context → Context) :
    w.adjust f = w.advance (f w.context) w.link.replies {} := by
  simp [adjust, advance]

@[simp] theorem advance_advance (context' : Context) (replies' : List Reply) (k : Journal) :
    (w.advance context replies j).advance context' replies' k =
      w.advance context' replies' (j ++ k) := by
  simp [advance, Journal.append_assoc]

@[simp] theorem note_advance (e : LogEvent) :
    (w.advance context replies j).note e = w.advance context replies (j ++ { log := [e] }) := by
  simp only [advance, note, World.mk.injEq, true_and]
  apply Journal.ext_fields <;> simp

@[simp] theorem wait_advance (ms : Nat) :
    (w.advance context replies j).wait ms = w.advance context replies (j ++ { elapsed := ms }) := by
  simp only [advance, wait, World.mk.injEq, true_and]
  apply Journal.ext_fields <;> simp [Nat.add_assoc]

@[simp] theorem adjust_advance (f : Context → Context) :
    (w.advance context replies j).adjust f = w.advance (f context) replies j := rfl

@[simp] theorem announce_advance (status : Nat) :
    (w.advance context replies j).announce status =
      w.advance { context with channel := context.channel.publish ⟨status⟩ } replies
        (j ++ .announcing context.channel.heard [⟨status⟩]) := by
  unfold announce
  by_cases h : context.channel.subscribers = []
  · simp only [h, ↓reduceIte, note, advance, World.mk.injEq, true_and]
    apply Journal.ext_fields <;> simp [Journal.announcing, Channel.heard, h]
  · simp only [h, ↓reduceIte, advance, World.mk.injEq, true_and]
    apply Journal.ext_fields <;> simp [Journal.announcing, Channel.heard, h]

end World

end CameraConsole

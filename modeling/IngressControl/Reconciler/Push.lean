import IngressControl.Reconciler.Session

/-!
# Pushes

A push hands a configuration to the control surface, again and again until it is taken or the
attempts of the schedule are used up. There is at least one attempt, a delay between any two, and
the error is that of the last one.
-/

namespace IngressControl.Session

variable {σ : Type}

/-- One attempt to hand over a configuration. -/
def configure (s : Session σ) (c : Collaborators σ) (new old : Configuration) :
    Session σ × Except ControlError Unit :=
  let (result, world) := c.configure s.world new old
  ({ s with world }.record (.configure s.now new old), result)

/-- Waits behind the failure of an attempt, counted from zero. -/
def pause (s : Session σ) (c : Collaborators σ) (b : Backoff) (attempt : UInt32) : Session σ :=
  let (share, world) := c.draw s.world b.jitter
  { s with world }.sleep (b.delay attempt share)

/-- Makes one attempt, and up to `remaining` more ones. -/
def attempts (c : Collaborators σ) (b : Backoff) (new old : Configuration) :
    (remaining : Nat) → (attempt : UInt32) → Session σ → Session σ × Except ControlError Unit
  | 0, _, s => s.configure c new old
  | remaining + 1, attempt, s =>
    match s.configure c new old with
    | (s, .ok ()) => (s, .ok ())
    | (s, .error _) => attempts c b new old remaining (attempt + 1) (s.pause c b attempt)

/-- Pushes a configuration. -/
def push (s : Session σ) (c : Collaborators σ) (b : Backoff) (new old : Configuration) :
    Session σ × Except ControlError Unit :=
  attempts c b new old (b.steps.toNat - 1) 0 s

end IngressControl.Session

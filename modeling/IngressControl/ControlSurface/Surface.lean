import IngressControl.ControlSurface.Client

/-!
# The control surface

A model of the surface itself: it holds the last body that was taken for each section, and answers
requests with statuses from a list. A body is taken when its request is answered with success, and
only then.
-/

namespace IngressControl

/-- What the surface holds, and how it goes on to answer. -/
structure Surface where
  backends : List Backend := []
  servers : ServersPayload := {}
  /-- The replies to come; behind the last one every request succeeds. -/
  replies : List Reply := []
deriving DecidableEq

namespace Surface

/-- Puts a body in the place of its section. -/
def take (s : Surface) : SectionBody → Surface
  | .backends items => { s with backends := items }
  | .servers payload => { s with servers := payload }

/-- Whether a body is taken along with a reply. -/
def isTaken : Reply → Bool
  | .status code => isSuccess code
  | .unreachable => false

/-- Answers a request. -/
def answer (s : Surface) (r : Request) : Reply × Surface :=
  let reply := s.replies.headD (.status 200)
  let s := { s with replies := s.replies.tail }
  (reply, if isTaken reply then s.take r.body else s)

/-- One attempt to hand a configuration over. -/
def configure (c : ControlClient) (s : Surface) (new old : Configuration) :
    Except ControlError Unit × Surface :=
  c.configure answer s new old

end Surface

end IngressControl

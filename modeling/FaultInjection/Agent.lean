import FaultInjection.Duration
import FaultInjection.Json.Value

/-!
# The agent

The agent runs in a container that is added to a pod while the pod is running. How long to wait for
it is configured as a number of seconds, of which zero and the negative ones have a meaning of their
own.
-/

namespace FaultInjection

/-! ## The container -/

/-- A container that is added to a running pod. -/
structure Container where
  /-- Its name. -/
  name : String
  /-- The image that it runs. -/
  image : String
  /-- When the image is fetched. -/
  pullPolicy : String
  /-- What it may do beyond what every container may. -/
  capabilities : List String
  /-- Its input stays open, so that it does not end by itself. -/
  keepsInput : Bool
  /-- It has a terminal. -/
  hasTerminal : Bool
deriving DecidableEq, Repr

/-- A container as it is described to a cluster. -/
def Container.description (c : Container) : Json :=
  .obj [
    ("name", .str c.name),
    ("image", .str c.image),
    ("imagePullPolicy", .str c.pullPolicy),
    ("securityContext", .obj [("capabilities", .obj [("add", .ofStrings c.capabilities)])]),
    ("stdin", .bool c.keepsInput),
    ("tty", .bool c.hasTerminal)]

namespace Agent

/-- The name of the agent's container. -/
def containerName : String := "xk6-agent"

/-- The image of the agent unless another one is configured. -/
def defaultImage : String := "ghcr.io/grafana/xk6-disruptor-agent:latest"

/-- The container that runs an image of the agent. -/
def container (image : String) : Container where
  name := containerName
  image
  pullPolicy := "IfNotPresent"
  capabilities := ["NET_ADMIN"]
  keepsInput := true
  hasTerminal := true

end Agent

/-! ## Waiting for it -/

/-- How long to wait until the agent runs. -/
inductive InjectTimeout where
  /-- For the usual time. -/
  | usual
  | bounded (bound : Duration)
  /-- The container is added, and nothing is waited for. -/
  | noWait
deriving DecidableEq, Repr

namespace InjectTimeout

/-- The usual time to wait. -/
def usualBound : Duration := .ofSecs 30

/-- Zero seconds stand for the usual time, and a negative number for no waiting. -/
def ofSecs (secs : Int) : InjectTimeout :=
  if secs = 0 then usual else if secs < 0 then noWait else bounded (.ofSecs secs.toNat)

/-- The time after which waiting ends, if there is any waiting. -/
def bound? : InjectTimeout → Option Duration
  | usual => some usualBound
  | bounded b => some b
  | noWait => none

end InjectTimeout

end FaultInjection

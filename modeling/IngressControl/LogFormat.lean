/-!
# What the controller tells about itself

Log lines, in one of two forms and from some level up, and metrics.
-/

namespace IngressControl

/-- The form of log lines. -/
inductive LogFormat where
  | pretty
  | json
deriving DecidableEq

namespace LogFormat

/-- The format of a name: `json` in any case of its letters, and the pretty one for any other. -/
def ofName (name : String) : LogFormat :=
  if name.toList.map Char.toLower = ['j', 's', 'o', 'n'] then .json else .pretty

/-- Which lines are logged by default: those of the controller from the given level up, and warnings
of everything else. -/
def defaultDirective (level : String) : String := "warn,ingress_reconciler=" ++ level

end LogFormat

/-- The settings for what is told. -/
structure ObservationSettings where
  logLevel : String := "info"
  logFormat : String := "pretty"
  metricsEnabled : Bool := true
  metricsAddress : String := "0.0.0.0:10254"
  /-- After how many seconds a series that is no longer updated is dropped. -/
  metricsIdleTimeout : UInt64 := 600
deriving DecidableEq

end IngressControl

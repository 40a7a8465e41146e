/-!
Which log lines are shown: those of the program itself down to debugging, those of the request trace down to
information, no others. A target counts by how its name starts.
-/

namespace ServiceMonitor.LogFilter

/-- how important a line is, the most important first -/
inductive Level where
  | error
  | warn
  | info
  | debug
  | trace
  deriving DecidableEq, Repr

def Level.rank : Level → Nat
  | .error => 0
  | .warn => 1
  | .info => 2
  | .debug => 3
  | .trace => 4

/-- the least important level shown, by the start of the target -/
def directives : List (String × Level) := [("servicewatch", .debug), ("tower_http", .info)]

def shown (target : String) (level : Level) : Bool :=
  directives.any fun d => d.1.toList.isPrefixOf target.toList && level.rank ≤ d.2.rank

end ServiceMonitor.LogFilter

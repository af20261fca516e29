import Vigil.Check.Account
import Vigil.Check.Cluster
import Vigil.Check.Credential
import Vigil.Check.Message
import Vigil.Check.Vitals

/-!
# Running checks

A check of a kind takes its section of the configuration, the present moment and a snapshot.
-/

namespace Vigil

namespace Kind

/-- The check of a kind. -/
def check : (k : Kind) → k.Settings → Instant → Option k.Snapshot → Checking Unit
  | .vitals, t, _, s => Check.vitals t s
  | .account, t, _, s => Check.account t s
  | .cluster, t, _, s => Check.cluster t s
  | .credential, t, clock, s => Check.credential t clock s
  | .message, t, clock, s => Check.message t clock s

/-- The kind of the check of a name. -/
def ofCheckName (name : String) : Except Fault Kind :=
  match ofName? name with
  | some k => .ok k
  | none => .error (.value (.unknownCheck name))

end Kind

namespace Monitor

/-- Runs a check on a report that may have findings already: the outcome, and the report
afterwards. -/
def runOn (k : Kind) (config : Config) (clock : Instant) (snapshot : Option k.Snapshot)
    (r : Report) :
    Except Fault Unit × Report :=
  (k.check (config.settings k) clock snapshot).runOn r

/-- Runs a check on a report of its own. -/
def run (k : Kind) (config : Config) (clock : Instant) (snapshot : Option k.Snapshot) :
    Except Fault Unit × Report :=
  runOn k config clock snapshot { check := k.name }

end Monitor

end Vigil

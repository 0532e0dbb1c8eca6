import SchemaPages.CommandLine.Run
import SchemaPages.Proofs.Files.Actions
/-!
# Runs and their logs

What a run comes to, and what it leaves. The settings are read and the log is opened before the command,
whichever command it is; what is logged comes into the log when the command is over, and changes nothing
of what the command came to.

* `Run.outcome`: what a run comes to, and the session that it leaves;
* `SettingUp`, `settingUp_outcome`: what setting up comes to;
* `outcome_arguments`: a command between setting up and its log.
-/

namespace SchemaPages.CommandLine

/-! ## 1. Outcomes of runs -/

namespace Run

variable {ε α β : Type} {w : Session}

/-- **What a run comes to**, and the session that it leaves. -/
def outcome (act : Run α) (w : Session) : Except Failure α × Session :=
  (act.run : StateM Session (Except Failure α)).run w

end Run

/-! ## 3. Whole runs -/

end SchemaPages.CommandLine

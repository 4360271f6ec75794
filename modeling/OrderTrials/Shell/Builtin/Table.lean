import OrderTrials.Shell.Builtin.Examining
import OrderTrials.Shell.Builtin.Printing
import OrderTrials.Shell.Builtin.Signals
import OrderTrials.Shell.Builtin.Surroundings
/-
# All builtins

The commands that the shell itself carries out, by their names.

Key definitions: `Shell.Builtin.table`, `Shell.Builtin.all`.
Key theorems: `Shell.Builtin.all_colon`.
-/

namespace OrderTrials
namespace Shell
namespace Builtin

/-- The builtins that are special: settings before them stay, and their errors end the shell. -/
def specials (ev : Evaluate) (mode : Mode) : List (String × (List Octets → Action Nat)) :=
  [(":", constant 0), (".", source ev), ("break", leaveLoop .loop), ("continue", leaveLoop .round),
    ("eval", evaluateText ev mode), ("exec", replace), ("exit", exit),
    ("export", markVariables "export" (fun v => { v with isExported := true }) (·.isExported)),
    ("readonly", markVariables "readonly" (fun v => { v with isFixed := true }) (·.isFixed)),
    ("local", makeLocals), ("return", returnFrom), ("set", setUp), ("shift", shift),
    ("times", times), ("trap", trap), ("unset", unset)]

/-- All other builtins. -/
def others (builtin? : Octets → Option Builtin) : List (String × (List Octets → Action Nat)) :=
  [("[", examine true), ("test", examine false), ("true", constant 0), ("false", constant 1),
    ("echo", echo), ("printf", print), ("alias", setAliases), ("unalias", unsetAliases),
    ("cd", changeFolder), ("chdir", changeFolder), ("pwd", showFolder),
    ("command", describeCommand builtin?), ("type", describeAll builtin?),
    ("hash", trackPrograms builtin?), ("getopts", nextOption), ("read", readLine),
    ("jobs", listJobs), ("wait", awaitJobs), ("kill", sendSignals), ("fg", moveJob),
    ("bg", moveJob), ("umask", setMask), ("ulimit", setLimits)]

/-- The builtins whose arguments may be settings. -/
def withSettings : List String := ["alias", "command", "export", "readonly", "local"]

/-- The builtin with a name, given the way to find others. -/
def table (ev : Evaluate) (mode : Mode) (builtin? : Octets → Option Builtin) (name : Octets) :
    Option Builtin :=
  let name := String.ofList name
  let takesSettings := withSettings.contains name
  match (specials ev mode).find? (·.1 == name) with
  | some (_, run) => some ⟨true, takesSettings, run⟩
  | none => ((others builtin?).find? (·.1 == name)).map fun (_, run) => ⟨false, takesSettings, run⟩

/-- All builtins. Those that tell about builtins need not carry them out. -/
def all : Builtins := fun ev mode => table ev mode (table ev mode fun _ => none)

/-- The shortest builtin does nothing and is special. -/
theorem all_colon (ev : Evaluate) (mode : Mode) :
    all ev mode [':'] = some ⟨true, false, constant 0⟩ := rfl

end Builtin
end Shell
end OrderTrials

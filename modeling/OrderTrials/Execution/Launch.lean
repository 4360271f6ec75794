import OrderTrials.FileTree
import OrderTrials.Text.Numeral
/-
# Launches

A program that is started with arguments in a folder, and what it leaves when it has ended. How
programs run is not said here: a launcher is any function from a launch and the files to that.

Key definitions: `Launch`, `Ending`, `Outcome`, `Launcher`, `Ending.text`, `Launch.lastLook`.
Key theorems: `Launch.le_lastLook`.
-/

namespace OrderTrials

/-- A program, its arguments and the folder that it is started in. -/
structure Launch where
  program : String
  arguments : List String
  folder : Option String
deriving DecidableEq, Inhabited

/-- How a program has ended. -/
inductive Ending where
  | exited (status : Nat)
  | signalled (signal : Nat)
  /-- It was stopped because it ran too long. -/
  | overdue
deriving DecidableEq, Inhabited

namespace Ending

/-- Whether a program has ended well. -/
def succeeded (e : Ending) : Bool := e == .exited 0

/-- The names of signals by number. -/
def signalNames : List (Nat × String) :=
  [(1, "SIGHUP"), (2, "SIGINT"), (3, "SIGQUIT"), (4, "SIGILL"), (5, "SIGTRAP"), (6, "SIGABRT"),
    (7, "SIGBUS"), (8, "SIGFPE"), (9, "SIGKILL"), (10, "SIGUSR1"), (11, "SIGSEGV"),
    (12, "SIGUSR2"), (13, "SIGPIPE"), (14, "SIGALRM"), (15, "SIGTERM"), (16, "SIGSTKFLT"),
    (17, "SIGCHLD"), (18, "SIGCONT"), (19, "SIGSTOP"), (20, "SIGTSTP"), (21, "SIGTTIN"),
    (22, "SIGTTOU"), (23, "SIGURG"), (24, "SIGXCPU"), (25, "SIGXFSZ"), (26, "SIGVTALRM"),
    (27, "SIGPROF"), (28, "SIGWINCH"), (29, "SIGIO"), (30, "SIGPWR"), (31, "SIGSYS")]

/-- An ending in words. -/
def text : Ending → String
  | exited status => "exit status: " ++ Text.showNatural status
  | signalled n =>
    "signal: " ++ Text.showNatural n ++
      match signalNames.find? (·.1 == n) with
      | some s => " (" ++ s.2 ++ ")"
      | none => ""
  | overdue => "signal: 9 (SIGKILL)"

end Ending

/-- What a program leaves: its ending, what it wrote, the time that it took, and the files. -/
structure Outcome where
  ending : Ending
  output : ByteArray
  complaints : ByteArray
  elapsed : Nat
  files : FileTree
deriving Inhabited

/-- Starts programs. A program may be limited in time. Without a program there is a reason. -/
abbrev Launcher := Launch → Option Nat → FileTree → Except String Outcome

namespace Launch

/-- How often a running program is looked at, in milliseconds. -/
def pause : Nat := 50

/-- The time at which a program is looked at for the last time: the first pause at which its limit
is over. A program that has not ended by then is stopped. -/
def lastLook (limit : Nat) : Nat := (limit + pause - 1) / pause * pause

theorem le_lastLook (limit : Nat) : limit ≤ lastLook limit := by
  simp only [lastLook, pause]
  omega

end Launch
end OrderTrials

import OrderTrials.Campaign
import OrderTrials.Text.Quoted
import OrderTrials.Toml.Document
/-
# Settings

The settings of a run as a TOML text gives them. Each section is a table with known keys; it may
also be written as the list of its values in their order. Settings that would stall the loop or
spoil its draws are refused.

Key definitions: `Settings`, `Settings.ofValue?`, `Settings.complaint?`, `Settings.ofText`.
-/

namespace OrderTrials

/-- The limits of the loop, and the number that selects its random words. -/
structure LoopSettings where
  maxRounds : Option Nat
  threads : Nat
  seed : Nat
deriving DecidableEq, Inhabited

/-- How jobs are run. -/
structure RunnerSettings where
  command : List String
  timeoutMinutes : Nat
  workingDir : Option String
  outputDir : String
deriving DecidableEq, Inhabited

/-- Where seeds come from. -/
structure SeedSettings where
  command : Option (List String)
  chance : Double
deriving DecidableEq, Inhabited

/-- The kinds of results. -/
inductive ReaderKind where
  | lines
  | json
deriving DecidableEq, Inhabited

/-- How results are read and reported. -/
structure ReportSettings where
  violationsDir : String
  truthDir : Option String
  reader : ReaderKind
deriving DecidableEq, Inhabited

/-- The settings of a run. -/
structure Settings where
  loop : Option LoopSettings
  plan : Plan
  runner : RunnerSettings
  spacePath : Option String
  targets : List String
  seeds : SeedSettings
  report : ReportSettings
deriving DecidableEq, Inhabited

namespace LoopSettings

/-- No limit of rounds, one thread, and the first stream of random words. -/
def standard : LoopSettings := ⟨none, 1, 0⟩

end LoopSettings

namespace Settings

/-- The settings of a run that sets nothing. -/
def standard : Settings where
  loop := none
  plan := ⟨2, 4⟩
  runner := ⟨[], 30, none, "./.ordfuzz/results"⟩
  spacePath := none
  targets := []
  seeds := ⟨none, RandomSeeds.evenChance⟩
  report := ⟨"./.ordfuzz/violations", none, .lines⟩

/-- The limits of the loop, given or not. -/
def loopSettings (s : Settings) : LoopSettings := s.loop.getD .standard

/-! ### Reading values -/

open Toml

/-- A key of a section, and when it may be missing: from a table, and from the end of a list. -/
structure Key where
  name : String
  missingInTable : Bool
  missingInList : Bool

/-- A key that may be missing. -/
def optionalKey (name : String) : Key := ⟨name, true, true⟩

/-- A key that may be missing from a table. -/
def tableKey (name : String) : Key := ⟨name, true, false⟩

/-- A key that must be there. -/
def requiredKey (name : String) : Key := ⟨name, false, false⟩

/-- The values of keys in a list, of which the rest is of no interest. -/
def valuesOfItems? : List Key → List Value → Option (List (Option Value))
  | [], _ => some []
  | k :: ks, [] => if k.missingInList then (valuesOfItems? ks []).map (none :: ·) else none
  | _ :: ks, v :: vs => (valuesOfItems? ks vs).map (some v :: ·)

/-- The value of a key in a table. -/
def valueOf? (members : List (String × Value)) (k : Key) : Option (Option Value) :=
  match members.find? (·.1 == k.name) with
  | some m => some (some m.2)
  | none => if k.missingInTable then some none else none

/-- The values of the keys of a section, in the order of the keys. Other keys are refused. -/
def section? (ks : List Key) : Value → Option (List (Option Value))
  | .list items => valuesOfItems? ks items
  | .table members =>
    if members.all fun m => ks.any (·.name == m.1) then ks.mapM (valueOf? members) else none
  | .scalar _ => none

/-- What `read` wants, where a missing value is `fallback`. -/
def orElse? {α : Type} (fallback : α) (read : Value → Option α) : Option Value → Option α
  | none => some fallback
  | some v => read v

/-- What `read` wants, where a missing value is none. -/
def maybe? {α : Type} (read : Value → Option α) : Option Value → Option (Option α)
  | none => some none
  | some v => (read v).map some

/-- A string. -/
def text? : Value → Option String
  | .scalar (.text s) => some s
  | _ => none

/-- A list of strings. -/
def texts? : Value → Option (List String)
  | .list items => items.mapM text?
  | _ => none

/-- A whole number that is not negative. -/
def count? : Value → Option Nat
  | .scalar (.whole n) => if 0 ≤ n then some n.toNat else none
  | _ => none

/-- A number. -/
def number? : Value → Option Double
  | .scalar (.double d) => some d
  | .scalar (.whole n) => some (.ofFloat (Float.ofInt n))
  | _ => none

/-- Whether a value is an empty list or table. -/
def isHollow : Value → Bool
  | .list items => items.isEmpty
  | .table members => members.isEmpty
  | .scalar _ => false

/-- One of several names: a string, or the only key of a table, with an empty value. -/
def name? : Value → Option String
  | .scalar (.text s) => some s
  | .table [(k, v)] => if isHollow v then some k else none
  | _ => none

/-- A kind of results. -/
def readerKind? (v : Value) : Option ReaderKind :=
  (name? v).bind fun name =>
    if name = "lines" then some .lines else if name = "json" then some .json else none

/-- The section on the loop. -/
def loop? (v : Value) : Option LoopSettings := do
  match ← section? [optionalKey "max-rounds", optionalKey "threads", optionalKey "rng-seed"] v with
  | [maxRounds, threads, seed] =>
    return ⟨← maybe? count? maxRounds, ← orElse? 1 count? threads, ← orElse? 0 count? seed⟩
  | _ => none

/-- The section on campaigns. -/
def plan? (v : Value) : Option Plan := do
  match ← section? [optionalKey "orders-per-round", optionalKey "benchmarks-per-round"] v with
  | [orders, targets] =>
    return ⟨← orElse? standard.plan.ordersPerRound count? orders,
      ← orElse? standard.plan.targetsPerRound count? targets⟩
  | _ => none

/-- The section on running jobs. -/
def runner? (v : Value) : Option RunnerSettings := do
  match ← section? [optionalKey "command", optionalKey "timeout-minutes", tableKey "working-dir",
      optionalKey "output-dir"] v with
  | [command, timeout, workingDir, outputDir] =>
    return ⟨← orElse? [] texts? command,
      ← orElse? standard.runner.timeoutMinutes count? timeout, ← maybe? text? workingDir,
      ← orElse? standard.runner.outputDir text? outputDir⟩
  | _ => none

/-- The section on the configuration space. -/
def space? (v : Value) : Option String := do
  match ← section? [requiredKey "path"] v with
  | [some path] => text? path
  | _ => none

/-- The section on targets. -/
def targets? (v : Value) : Option (List String) := do
  match ← section? [optionalKey "targets"] v with
  | [targets] => orElse? [] texts? targets
  | _ => none

/-- The section on seeds. -/
def seeds? (v : Value) : Option SeedSettings := do
  match ← section? [optionalKey "command", optionalKey "option-probability"] v with
  | [command, chance] =>
    return ⟨← maybe? texts? command, ← orElse? standard.seeds.chance number? chance⟩
  | _ => none

/-- The section on reports. -/
def report? (v : Value) : Option ReportSettings := do
  match ← section? [optionalKey "violations-dir", optionalKey "ground-truth-dir",
      optionalKey "reader"] v with
  | [violationsDir, truthDir, reader] =>
    return ⟨← orElse? standard.report.violationsDir text? violationsDir,
      ← maybe? text? truthDir, ← orElse? .lines readerKind? reader⟩
  | _ => none

/-- The settings that a value gives. -/
def ofValue? (v : Value) : Option Settings := do
  match ← section? (["fuzzer", "campaign", "runner", "space", "benchmarks", "seeds",
      "report"].map optionalKey) v with
  | [loop, plan, runner, space, targets, seeds, report] =>
    return {
      loop := ← maybe? loop? loop
      plan := ← orElse? standard.plan plan? plan
      runner := ← orElse? standard.runner runner? runner
      spacePath := ← maybe? space? space
      targets := ← orElse? [] targets? targets
      seeds := ← orElse? standard.seeds seeds? seeds
      report := ← orElse? standard.report report? report }
  | _ => none

/-- What is wrong with settings, if anything is. -/
def complaint? (s : Settings) : Option String :=
  if s.plan.ordersPerRound = 0 then some "campaign.orders-per-round must be at least 1"
  else if s.plan.targetsPerRound = 0 then some "campaign.benchmarks-per-round must be at least 1"
  else if !s.seeds.chance.isWithinUnit then
    some ("seeds.option-probability must be within [0, 1], got " ++ s.seeds.chance.plainText)
  else none

end Settings

/-- Why there are no settings. -/
inductive SettingsFault where
  /-- The file cannot be read. -/
  | unreadable (path : String) (reason : String)
  /-- The text gives no settings. -/
  | unparsable (path : String)
  /-- The settings are refused. -/
  | invalid (path : String) (reason : String)
deriving DecidableEq, Inhabited

/-- The absence of settings in words. -/
def SettingsFault.message : SettingsFault → String
  | unreadable path reason =>
    "Failed to read config file at " ++ Text.quoted path ++ ": " ++ reason
  | unparsable path => "Failed to parse TOML from config file " ++ Text.quoted path
  | invalid path reason => "Invalid config file " ++ Text.quoted path ++ ": " ++ reason

namespace Settings

/-- The settings of a text that was found at a path. -/
def ofText (path text : String) : Except SettingsFault Settings :=
  match (Toml.read? text).bind ofValue? with
  | none => .error (.unparsable path)
  | some s =>
    match s.complaint? with
    | some reason => .error (.invalid path reason)
    | none => .ok s

/-- The settings in a file. -/
def load (files : FileTree) (path : String) : Except SettingsFault Settings :=
  match files.read path with
  | .error cause => .error (.unreadable path cause.message)
  | .ok bytes =>
    match String.fromUTF8? bytes with
    | none => .error (.unreadable path "stream did not contain valid UTF-8")
    | some text => ofText path text

end Settings
end OrderTrials

import OrderTrials.Cli.Options
import OrderTrials.CommandSeeds
import OrderTrials.Execution.Command
import OrderTrials.Random.ChaCha
import OrderTrials.Settings
import OrderTrials.Space.Artifact
import OrderTrials.TrialLoop
/-
# Sessions

A session is one call of the program: it reads its settings, lets the command line override them,
loads the configuration space and the ground truth, and repeats rounds in a world of files and
random words. It answers with an exit code and lines, and leaves the files as they are then.

Key definitions: `Cli.SessionFault`, `Cli.World`, `Cli.override`, `Cli.session`, `Cli.answer`.
-/

namespace OrderTrials
namespace Cli

/-- Why a session fails. -/
inductive SessionFault where
  | settings (fault : SettingsFault)
  | noSpace
  | space (path : String)
  | campaign (e : CampaignError)
  | noCommand
  | truth (folder : String)
  | loop (fault : LoopFault)
deriving DecidableEq, Inhabited

/-- A failure in words. -/
def SessionFault.message : SessionFault → String
  | settings fault => fault.message
  | noSpace => "No configuration space given: set [space] path or pass --space"
  | space path => "Failed to load configuration space " ++ Text.quoted path
  | campaign e => e.message
  | noCommand => "No runner command configured: set [runner] command"
  | truth folder => "Failed to load ground truth from " ++ Text.quoted folder
  | loop fault => fault.message

/-- What a session changes: the files and the random words. -/
structure World where
  files : FileTree
  stream : ChaCha
deriving Inhabited

instance : Randomness World where
  short w := let (x, stream) := Randomness.short w.stream; (x, { w with stream })
  long w := let (x, stream) := Randomness.long w.stream; (x, { w with stream })

instance : Filing World where
  files w := w.files
  refile w files := { w with files }

/-- The source of seeds that settings choose. -/
inductive ChosenSeeds where
  | command (c : CommandSeeds)
  | random (r : RandomSeeds)

instance {σ : Type} [Randomness σ] [Filing σ] : SeedSource ChosenSeeds σ where
  next
    | .command c, s => let (r, c, s) := SeedSource.next c s; (r, .command c, s)
    | .random q, s => let (r, q, s) := SeedSource.next q s; (r, .random q, s)

/-! ### Settings -/

/-- The path of the settings that are used if no other path is given. -/
def standardPath : String := "ordfuzz.toml"

/-- The settings of a session before the command line overrides them. -/
def settingsOf (o : Options) (files : FileTree) : Except SettingsFault Settings :=
  match o.configFile with
  | some path => Settings.load files path
  | none =>
    if files.has standardPath then Settings.load files standardPath
    else .ok .standard

/-- Settings with what the command line sets. -/
def override (o : Options) (s : Settings) : Settings :=
  let l := s.loopSettings
  { s with
    spacePath := o.space.or s.spacePath
    targets := if o.targets.isEmpty then s.targets else o.targets
    loop := some {
      maxRounds := o.maxRounds.or l.maxRounds
      threads := o.threads.getD l.threads
      seed := o.seed.getD l.seed }
    runner := { s.runner with outputDir := o.outputDir.getD s.runner.outputDir } }

/-! ### Parts of a session -/

/-- The configuration space in a file. -/
def spaceAt (files : FileTree) (path : String) : Except SessionFault Space :=
  match files.read path with
  | .error _ => .error (.space path)
  | .ok bytes =>
    match (String.fromUTF8? bytes).map Space.ofText with
    | some (.ok s) => .ok s
    | _ => .error (.space path)

/-- The source of seeds. -/
def seedsOf (launcher : Launcher) (s : Settings) (space : Space) : ChosenSeeds :=
  match s.seeds.command with
  | some command => .command ⟨launcher, command, s.runner.workingDir⟩
  | none => .random (.make space (some s.seeds.chance))

/-- The reader of results. -/
def readerOf (s : Settings) : Reader String :=
  match s.report.reader with
  | .lines => Reader.lines
  | .json => Reader.jsonValues

/-- The ground truth, if the settings name a folder of it. -/
def truthOf (s : Settings) (files : FileTree) (targets : List Target) :
    Except SessionFault (Option (GroundTruth String)) :=
  match s.report.truthDir with
  | none => .ok none
  | some folder =>
    match GroundTruth.load (readerOf s) files folder targets with
    | .ok truth => .ok (some truth)
    | .error _ => .error (.truth folder)

/-- The milliseconds in a number of minutes. -/
def millisecondsOf (minutes : Nat) : Nat := minutes * 60 * 1000

/-- How jobs are run by a command. -/
def templateOf (s : Settings) : Template where
  command := s.runner.command
  folder := s.runner.workingDir
  limit := millisecondsOf s.runner.timeoutMinutes

/-- What the loop needs of the world. -/
def rigOf (launcher : Launcher) (s : Settings) (space : Space)
    (truth : Option (GroundTruth String)) : Rig World where
  execute job w :=
    let (r, files) := (templateOf s).run launcher space s.runner.outputDir job w.files
    (r, { w with files })
  judge w := Judge.ofFiles (readerOf s) w.files truth
  record := recordIn (some ⟨s.report.violationsDir⟩)
  minimize _ _ w := (.ok (), w)

/-- How many texts of seeds in a row may describe no configuration. -/
def patience : Nat := 1000000

/-- How many rounds a session without a limit repeats. -/
def endurance : Nat := 1000000

/-- A session with its settings complete. -/
def runWith (launcher : Launcher) (s : Settings) (files : FileTree) :
    Except SessionFault TrialLoop.Stats × FileTree :=
  match s.spacePath with
  | none => (.error .noSpace, files)
  | some path =>
    match spaceAt files path with
    | .error fault => (.error fault, files)
    | .ok space =>
      let targets := s.targets.map Target.mk
      match Generator.make space s.plan (seedsOf launcher s space) targets with
      | .error e => (.error (.campaign e), files)
      | .ok g =>
        if s.runner.command.isEmpty then (.error .noCommand, files)
        else
          match truthOf s files targets with
          | .error fault => (.error fault, files)
          | .ok truth =>
            let l := s.loopSettings
            let w : World := ⟨files, .ofNumber l.seed.toUInt64⟩
            match TrialLoop.run (rigOf launcher s space truth) patience l.maxRounds
                (l.maxRounds.getD endurance) .zero g w with
            | (.error fault, _, w) => (.error (.loop fault), w.files)
            | (.ok stats, _, w) => (.ok stats, w.files)

/-- A session with what the command line sets. -/
def session (launcher : Launcher) (o : Options) (files : FileTree) :
    Except SessionFault TrialLoop.Stats × FileTree :=
  match settingsOf o files with
  | .error fault => (.error (.settings fault), files)
  | .ok s => runWith launcher (override o s) files

/-! ### Answers -/

/-- Whether the program breaks off where it stands, with an exit code of its own. -/
def SessionFault.breaksOff : SessionFault → Bool
  | loop (.campaign .overflow) => true
  | _ => false

/-- The name and version of the program. -/
def versionLine : String := "ordfuzz_cli 0.1.0"

/-- The lines on what a loop did. -/
def linesOf (t : TrialLoop.Stats) : List String :=
  let n := Text.showNatural
  ("Rounds: " ++ n t.rounds ++ ", Jobs: " ++ n t.jobs ++ " (" ++ n t.failed ++
    " failed), Comparisons: " ++ n t.comparisons ++ ", Violations: " ++ n t.violations ++ " (" ++
    n t.transitive ++ " transitive)") ::
  (t.stop.map fun reason => "Stopped: " ++ reason.text).toList

/-- The lines that tell how the program is used. -/
def helpLines : List String :=
  ["Usage: ordfuzz_cli [OPTIONS]",
    "",
    "Options:",
    "  -c, --config-file <CONFIG_FILE>",
    "  -s, --space <SPACE>              Configuration-space JSON artifact",
    "  -t, --target <TARGETS>           Benchmark target; repeat to give several",
    "  -r, --max-rounds <MAX_ROUNDS>",
    "  -j, --threads <THREADS>",
    "      --rng-seed <RNG_SEED>",
    "  -o, --output-dir <OUTPUT_DIR>",
    "  -v, --verbose",
    "  -h, --help                       Print help",
    "  -V, --version                    Print version"]

/-- What the program answers: its exit code, the lines that it prints, a complaint, and the files
that it leaves. -/
structure Answer where
  exit : Nat
  lines : List String
  complaint : Option String
  files : FileTree
deriving Inhabited

/-- Answers the words of a command line. -/
def answer (launcher : Launcher) (words : List String) (files : FileTree) : Answer :=
  match Request.read words with
  | .help => ⟨0, helpLines, none, files⟩
  | .version => ⟨0, [versionLine], none, files⟩
  | .misuse => ⟨2, [], some "error: unexpected or missing argument", files⟩
  | .run o =>
    match session launcher o files with
    | (.ok stats, files) => ⟨0, linesOf stats, none, files⟩
    | (.error fault, files) =>
      if fault.breaksOff then ⟨101, [], some fault.message, files⟩
      else ⟨1, [], some ("Error: " ++ fault.message), files⟩

end Cli
end OrderTrials

import OrderTrials.Text.Numeral
/-
# Options of the command line

What the words of a command line ask for. An option has a long name and most have a letter; its
value is the rest of its word or the next word, which then must not look like an option. Letters of
options without values may stand together. Words that break these rules ask for nothing.

Key definitions: `Cli.Key`, `Cli.Options`, `Cli.Request`, `Cli.Options.give?`, `Cli.Request.read`.
Key theorems: `Cli.Request.readFrom_nil`.
-/

namespace OrderTrials
namespace Cli

/-- The options by what they set. -/
inductive Key where
  | configFile
  | space
  | target
  | maxRounds
  | threads
  | seed
  | outputDir
  | verbose
  | help
  | version
deriving DecidableEq, Inhabited

namespace Key

/-- The long names of the options. -/
def names : List (String × Key) :=
  [("config-file", configFile), ("space", space), ("target", target), ("max-rounds", maxRounds),
    ("threads", threads), ("rng-seed", seed), ("output-dir", outputDir), ("verbose", verbose),
    ("help", help), ("version", version)]

/-- The letters of the options. -/
def letters : List (Char × Key) :=
  [('c', configFile), ('s', space), ('t', target), ('r', maxRounds), ('j', threads),
    ('o', outputDir), ('v', verbose), ('h', help), ('V', version)]

/-- The option of a long name. -/
def ofName? (name : String) : Option Key := (names.find? (·.1 == name)).map (·.2)

/-- The option of a letter. -/
def ofLetter? (letter : Char) : Option Key := (letters.find? (·.1 == letter)).map (·.2)

/-- Whether an option has a value. -/
def takesValue : Key → Bool
  | verbose | help | version => false
  | _ => true

end Key

/-- What a command line sets. -/
structure Options where
  configFile : Option String
  space : Option String
  targets : List String
  maxRounds : Option Nat
  threads : Option Nat
  seed : Option Nat
  outputDir : Option String
  verbose : Bool
deriving DecidableEq, Inhabited

namespace Options

/-- Options that set nothing. -/
def blank : Options := ⟨none, none, [], none, none, none, none, false⟩

/-- Gives an option that may be given once its value. -/
def once? {α : Type} (before : Option α) (value : Option α) : Option (Option α) :=
  match before, value with
  | none, some v => some (some v)
  | _, _ => none

/-- A path, which must not be empty. -/
def path? (value : String) : Option String := if value.isEmpty then none else some value

/-- Gives an option its value, unless it is given twice or the value is not of its kind. -/
def give? (o : Options) (k : Key) (value : String) : Option Options :=
  match k with
  | .configFile => (once? o.configFile (path? value)).map fun v => { o with configFile := v }
  | .space => (once? o.space (path? value)).map fun v => { o with space := v }
  | .target => some { o with targets := o.targets ++ [value] }
  | .maxRounds =>
    (once? o.maxRounds (Text.readUnsigned value)).map fun v => { o with maxRounds := v }
  | .threads => (once? o.threads (Text.readUnsigned value)).map fun v => { o with threads := v }
  | .seed => (once? o.seed (Text.readUnsigned value)).map fun v => { o with seed := v }
  | .outputDir => (once? o.outputDir (path? value)).map fun v => { o with outputDir := v }
  | .verbose | .help | .version => none

end Options

/-- What a command line asks for. -/
inductive Request where
  | run (o : Options)
  | help
  | version
  /-- The words break the rules. -/
  | misuse
deriving DecidableEq, Inhabited

namespace Request

/-- How the reading of words goes on: it is over, or there are options, and one of them may wait
for its value. -/
inductive Progress where
  | decided (r : Request)
  | going (o : Options) (waiting : Option Key)
deriving DecidableEq, Inhabited

/-- Takes an option without a value. -/
def mark (o : Options) (k : Key) : Progress :=
  match k with
  | .help => .decided .help
  | .version => .decided .version
  | .verbose => if o.verbose then .decided .misuse else .going { o with verbose := true } none
  | k => .going o (some k)

/-- Takes an option with the value that is part of its word. -/
def settle (o : Options) (k : Key) (value : String) : Progress :=
  match o.give? k value with
  | some o => .going o none
  | none => .decided .misuse

/-- Takes the rest of a word that starts with two dashes. -/
def takeName (o : Options) (word : List Char) : Progress :=
  let name := word.takeWhile (· != '=')
  match Key.ofName? (String.ofList name), word.drop name.length with
  | none, _ => .decided .misuse
  | some k, [] => mark o k
  | some k, _ :: value =>
    if k.takesValue then settle o k (String.ofList value) else .decided .misuse

/-- Takes the rest of a word that starts with one dash. -/
def takeLetters (o : Options) : List Char → Progress
  | [] => .going o none
  | c :: r =>
    match Key.ofLetter? c with
    | none => .decided .misuse
    | some k =>
      if k.takesValue then
        match r with
        | [] => .going o (some k)
        | '=' :: value => settle o k (String.ofList value)
        | value => settle o k (String.ofList value)
      else
        match mark o k with
        | .going o _ => takeLetters o r
        | p => p

/-- Takes one word. Only options are known; two dashes end them, and nothing may follow. -/
def take (o : Options) (waiting : Option Key) (word : String) : Progress :=
  match waiting, word.toList with
  | some _, '-' :: _ :: _ => .decided .misuse
  | some k, _ => settle o k word
  | none, '-' :: '-' :: c :: r => takeName o (c :: r)
  | none, ['-', '-'] => .decided .misuse
  | none, '-' :: c :: r => takeLetters o (c :: r)
  | none, _ => .decided .misuse

/-- Reads words on top of options, one of which may wait for its value. -/
def readFrom (o : Options) (waiting : Option Key) : List String → Request
  | [] => if waiting.isNone then .run o else .misuse
  | word :: r =>
    if word = "--" ∧ waiting.isNone ∧ r.isEmpty then .run o
    else
      match take o waiting word with
      | .decided request => request
      | .going o waiting => readFrom o waiting r

/-- Words that have ended are a request to run if no option waits for its value. -/
theorem readFrom_nil (o : Options) (waiting : Option Key) :
    readFrom o waiting [] = .run o ↔ waiting = none := by
  cases waiting <;> simp [readFrom]

/-- What some words ask for. -/
def read (words : List String) : Request := readFrom .blank none words

end Request
end Cli
end OrderTrials

import OrderTrials.Configuration
import OrderTrials.Random.Source
/-
# Sources of seeds

A seed is the text of a configuration from which a round starts. A source of seeds yields one text
after the other and may fail; a text that describes no configuration is no failure of the source.
The built-in source sets each option with a given chance to a level that it draws.

Key definitions: `SeedSource`, `ListedSeeds`, `RandomSeeds`, `Dimension.drawInteger`.
-/

namespace OrderTrials

/-- A failure of a source, and what caused it. -/
structure SeedFailure where
  reason : String
  cause : Option String
deriving DecidableEq, Inhabited

/-- A failure with its cause in one line. -/
def SeedFailure.chain (f : SeedFailure) : String :=
  match f.cause with
  | none => f.reason
  | some cause => f.reason ++ ": " ++ cause

/-- A state that yields the texts of seeds, given the state `σ` of the world around it. -/
class SeedSource (τ σ : Type) where
  next : τ → σ → Except SeedFailure String × τ × σ

/-- An integer drawn from the range of a dimension, if both its bounds are known. -/
def Dimension.drawInteger {σ : Type} [Randomness σ] (d : Dimension) (s : σ) : Option Int × σ :=
  match d.least, d.greatest with
  | some least, some greatest =>
    let (v, s) := Random.between least greatest s
    (some v, s)
  | _, _ => (none, s)

/-- The value that a random seed gives to an option: an integer of the range, or one of the
registered levels that are no placeholders. -/
def Dimension.drawValue {σ : Type} [Randomness σ] (d : Dimension) (s : σ) : Option String × σ :=
  if d.isInteger then
    let (v, s) := d.drawInteger s
    (v.map Text.showInteger, s)
  else
    Random.element (d.levels.filter fun name => !Level.isPlaceholder ⟨d.name, name⟩) s

/-- Seeds that are drawn: each option is set with a chance. -/
structure RandomSeeds where
  space : Space
  chance : Double
deriving DecidableEq, Inhabited

namespace RandomSeeds

/-- An even chance. -/
def evenChance : Double := ⟨0x3FE0000000000000⟩

/-- The chance that a number stands for: the number moved between zero and one, if it is finite. -/
def chanceOf? (p : Double) : Option Double :=
  if p.isFinite then
    if decide (p.toFloat < 0) then some Double.zero
    else if decide (1 < p.toFloat) then some Double.one
    else some p
  else none

/-- Random seeds for a space; without a usable chance it is an even one. -/
def make (space : Space) (chance : Option Double) : RandomSeeds :=
  ⟨space, (chance.bind chanceOf?).getD evenChance⟩

/-- The words that set an option. -/
def setting (name value : String) : List String :=
  ("--" ++ name) :: if value = Configuration.flagValue then [] else [value]

/-- Draws the words for the options of some dimensions. -/
def drawWords {σ : Type} [Randomness σ] (chance : Double) : List Dimension → σ → List String × σ
  | [], s => ([], s)
  | d :: ds, s =>
    let (set, s) := Random.coin chance s
    if set then
      let (value, s) := d.drawValue s
      let (rest, s) := drawWords chance ds s
      match value with
      | some value => (setting d.name value ++ rest, s)
      | none => (rest, s)
    else drawWords chance ds s

/-- Draws the text of a seed. -/
def draw {σ : Type} [Randomness σ] (r : RandomSeeds) (s : σ) : String × σ :=
  let (words, s) := drawWords r.chance r.space.dimensions.values s
  (" ".intercalate words, s)

end RandomSeeds

/-- Random seeds beside any world that yields random words; such a source never fails. -/
instance {σ : Type} [Randomness σ] : SeedSource RandomSeeds σ where
  next r s :=
    let (text, s) := r.draw s
    (.ok text, r, s)

/-- Seeds that are handed out in turn. -/
structure ListedSeeds where
  texts : List String
deriving DecidableEq, Inhabited

/-- Listed seeds beside any world; after the last one the source fails. -/
instance {σ : Type} : SeedSource ListedSeeds σ where
  next l s :=
    match l.texts with
    | [] => (.error ⟨"no more seeds", none⟩, l, s)
    | text :: rest => (.ok text, ⟨rest⟩, s)

end OrderTrials

import OrderTrials.Seed
/-
# Mutation along orders

An order is exercised by two configurations that differ from a seed in the option of the order:
one has the level on the left and one the level on the right. A placeholder is replaced by an
integer of the range, and a configuration that would not differ from the seed is left out.

Key definitions: `Mutation.concrete`, `Mutation.mutants`.
-/

namespace OrderTrials
namespace Mutation

variable {σ : Type} [Randomness σ]

/-- A level that can be run: the level itself, or an integer drawn for a placeholder. -/
def concrete (d : Dimension) (l : Level) (s : σ) : Except SpaceError Level × σ :=
  if l.isPlaceholder then
    match d.drawInteger s with
    | (some v, s) => (.ok ⟨d.name, Text.showInteger v⟩, s)
    | (none, s) => (.error (.unregisteredLevel d.name l.name), s)
  else (.ok l, s)

/-- Adds the mutant with a level, unless it is the seed or there already. -/
def extend (seed : Configuration) (current : Option Level) (found : List Configuration)
    (l : Level) : List Configuration :=
  if current = some l then found
  else
    let mutant := seed.mutated l
    if found.contains mutant then found else found ++ [mutant]

/-- The mutants of a seed for the two sides of an order, the left one first. -/
def mutants (space : Space) (seed : Configuration) (o : Order) (s : σ) :
    Except SpaceError (List Configuration) × σ :=
  match space.dimension o.option with
  | .error fault => (.error fault, s)
  | .ok d =>
    let current := seed.get? d.name
    match concrete d o.left s with
    | (.error fault, s) => (.error fault, s)
    | (.ok left, s) =>
      let found := extend seed current [] left
      match concrete d o.right s with
      | (.error fault, s) => (.error fault, s)
      | (.ok right, s) => (.ok (extend seed current found right), s)

/-- Adds the mutants for each of several orders to the configurations found so far. -/
def allMutants (space : Space) (seed : Configuration) :
    List Order → List Configuration → σ → Except SpaceError (List Configuration) × σ
  | [], found, s => (.ok found, s)
  | o :: os, found, s =>
    match mutants space seed o s with
    | (.error fault, s) => (.error fault, s)
    | (.ok ms, s) =>
      allMutants space seed os
        (ms.foldl (fun found m => if found.contains m then found else found ++ [m]) found) s

end Mutation
end OrderTrials

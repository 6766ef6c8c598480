import ModelProbe.Pattern.Tree
/-!
# Searching a text for a pattern

A set of places of a text is a number, its bits the places. A tree takes the set of places where
it may begin to the set of places where it may end; sets only grow or run out of the text, so
every repetition is decided after one round more than the text has places.
-/

namespace ModelProbe.Pattern

/-- A set of places, bit `i` standing for the place before the character `i`. -/
abbrev Places := Nat

/-- The places `i` of which the item `i` of the list is true. -/
def Places.ofFlags : List Bool → Places
  | [] => 0
  | b :: bs => 2 * Places.ofFlags bs + b.toNat

/-- The places between neighbours for which a condition holds. -/
def placesBetween (holds : Option Char → Option Char → Bool) (before : Option Char) :
    List Char → List Bool
  | [] => [holds before none]
  | c :: cs => holds before (some c) :: placesBetween holds (some c) cs

/-- Applies `step` to the set, at most `rounds` times. -/
def iterate (step : Places → Places) : (rounds : Nat) → Places → Places
  | 0, s => s
  | rounds + 1, s => iterate step rounds (step s)

/-- All places that are reached from the set in at most `rounds` steps. -/
def reach (step : Places → Places) : (rounds : Nat) → (seen frontier : Places) → Places
  | 0, seen, _ => seen
  | rounds + 1, seen, frontier =>
    let next := step frontier
    let fresh := (next ||| seen) ^^^ seen
    if fresh = 0 then seen else reach step rounds (seen ||| fresh) fresh

namespace Tree

/-- The places where the tree may end when it begins in the set. -/
def ends (text : List Char) : Tree → Places → Places
  | empty => id
  | chars set =>
    let mask := Places.ofFlags (text.map set.contains)
    fun s => (s &&& mask) <<< 1
  | boundary b =>
    let mask := Places.ofFlags (placesBetween b.holds none text)
    fun s => s &&& mask
  | seq a b =>
    let first := ends text a
    let second := ends text b
    fun s => second (first s)
  | alt a b =>
    let left := ends text a
    let right := ends text b
    fun s => left s ||| right s
  | times a least most =>
    let step := ends text a
    let rounds := text.length + 2
    fun s =>
      let first := iterate step (min least rounds) s
      match most with
      | none => reach step rounds first first
      | some m => reach step (min (m - least) rounds) first first

/-- Whether the tree fits somewhere in the text. -/
def fits (tree : Tree) (text : List Char) : Bool :=
  tree.ends text (Nat.pow 2 (text.length + 1) - 1) != 0

end Tree

end ModelProbe.Pattern

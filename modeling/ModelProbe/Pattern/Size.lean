import ModelProbe.Pattern.Tree
/-!
# The size of patterns

A machine for a pattern has a state for each step, and a counted repetition has the states of what
it repeats over and over. A pattern is refused when its states would take too much room. How much
they take is up to how the machine is built, so readers of patterns are given the limit.

* `Limit`: which patterns a machine can be built for.
* `Limit.estimated`: the limit by an estimate, which is about right for what is repeated often.
-/

namespace ModelProbe.Pattern

/-- The room of one state. -/
def stateRoom : Nat := 32

/-- The room of a state that leads to two others. -/
def choiceRoom : Nat := 40

/-- The room of a range of characters, which may take some states for their bytes. -/
def rangeRoom : Nat := 64

/-- The room that a pattern may take. -/
def maxRoom : Nat := 10 * 1024 * 1024

/-- The room that the states of a pattern take. -/
def Tree.room : Tree → Nat
  | empty => 0
  | chars set =>
    if set.all fun (_, high) => high < 128 then stateRoom + set.length else rangeRoom * set.length
  | boundary _ => stateRoom
  | seq a b => room a + room b
  | alt a b => room a + room b + choiceRoom
  | times a least none => max 1 least * room a + choiceRoom
  | times a least (some most) => least * room a + (most - least) * (room a + choiceRoom)

/-- Which patterns a machine can be built for. -/
abbrev Limit := Tree → Bool

/-- The limit by the estimated room. -/
def Limit.estimated : Limit := fun tree => tree.room ≤ maxRoom

end ModelProbe.Pattern

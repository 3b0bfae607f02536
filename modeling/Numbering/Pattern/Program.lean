import Numbering.Pattern.Basic

/-!
# Patterns as programs

A pattern is carried out as a list of instructions. An instruction takes a character, demands
something of its place, or says where to go on; whoever gets behind the last instruction has found
the end of a match. Where a pattern leaves a choice there is a fork, and its first branch is the
preferred one.
-/

namespace Numbering

/-- One step of a program. Addresses count the instructions from the start of the program. -/
inductive Instruction where
  | take (set : CharSet)
  | require (anchor : Anchor)
  | fork (first second : Nat)
  | jump (target : Nat)

/-- The instructions of a pattern. -/
abbrev Program := Array Instruction

namespace Instruction

/-- A fork between one more round and what follows: a greedy one prefers the round. -/
def repeatOr (greedy : Bool) (round further : Nat) : Instruction :=
  if greedy then .fork round further else .fork further round

end Instruction

namespace Pattern

/-- The instructions of a pattern that start at an address. The pattern has been found behind the
last one of them. Any number of rounds comes back to one fork in front of the rounds, unless a round
may take nothing: then there is one fork in front of the first round and another one behind every
round, so that a first round that takes nothing is an end in its own right. -/
def code (start : Nat) : Pattern → List Instruction
  | .empty => []
  | .oneOf set => [.take set]
  | .holding anchor => [.require anchor]
  | .sequence first second =>
      let front := first.code start
      front ++ second.code (start + front.length)
  | .choice first second =>
      let front := first.code (start + 1)
      let middle := start + front.length + 2
      let back := second.code middle
      .fork (start + 1) middle :: front ++ .jump (middle + back.length) :: back
  | .optional greedy body =>
      let round := body.code (start + 1)
      .repeatOr greedy (start + 1) (start + round.length + 1) :: round
  | .star greedy body =>
      let round := body.code (start + 1)
      let last : Instruction :=
        if body.isHollow then .repeatOr greedy (start + 1) (start + round.length + 2)
        else .jump start
      .repeatOr greedy (start + 1) (start + round.length + 2) :: round ++ [last]
  | .plus greedy body =>
      let round := body.code start
      round ++ [.repeatOr greedy start (start + round.length + 1)]

/-- The program of a pattern. -/
def program (pattern : Pattern) : Program := (pattern.code 0).toArray

/-- A pattern that only demands something of its place has one instruction. -/
theorem program_holding (anchor : Anchor) :
    (Pattern.holding anchor).program = #[.require anchor] := rfl

end Pattern

end Numbering

import Numbering.Pattern.CharSet

/-!
# Patterns

A pattern describes pieces of text: characters from a set, places in the text, one pattern after
the other, a choice that prefers its first branch, and repetitions that prefer many or few rounds.
-/

namespace Numbering

/-- A condition on a place in a text. -/
inductive Anchor where
  | textStart
  | textEnd
  | lineStart
  | lineEnd
  | wordBoundary
  | noWordBoundary
deriving DecidableEq

/-- A pattern with all flags resolved. -/
inductive Pattern where
  | empty
  | oneOf (set : CharSet)
  | holding (anchor : Anchor)
  | sequence (first second : Pattern)
  | choice (first second : Pattern)
  | optional (greedy : Bool) (body : Pattern)
  | star (greedy : Bool) (body : Pattern)
  | plus (greedy : Bool) (body : Pattern)

namespace Pattern

/-- The number of parts of a pattern. -/
def size : Pattern → Nat
  | .empty | .oneOf _ | .holding _ => 1
  | .sequence first second | .choice first second => first.size + second.size
  | .optional _ body | .star _ body | .plus _ body => body.size + 1

/-- A pattern takes no less than one character unless it is hollow. -/
def isHollow : Pattern → Bool
  | .empty | .holding _ | .optional _ _ | .star _ _ => true
  | .oneOf _ => false
  | .sequence first second => first.isHollow && second.isHollow
  | .choice first second => first.isHollow || second.isHollow
  | .plus _ body => body.isHollow

/-- Some patterns one after the other. -/
def sequenceOf : List Pattern → Pattern
  | [] => .empty
  | [pattern] => pattern
  | pattern :: patterns => .sequence pattern (sequenceOf patterns)

/-- A choice between some patterns that prefers the earlier ones. -/
def choiceOf : List Pattern → Pattern
  | [] => .empty
  | [pattern] => pattern
  | pattern :: patterns => .choice pattern (choiceOf patterns)

/-- A number of copies of a pattern, followed by something else. -/
def copies (body rest : Pattern) : Nat → Pattern
  | 0 => rest
  | 1 => match rest with
    | .empty => body
    | rest => .sequence body rest
  | count + 1 => .sequence body (copies body rest count)

/-- At most a number of rounds of a pattern. -/
def atMost (greedy : Bool) (body : Pattern) : Nat → Pattern
  | 0 => .empty
  | 1 => .optional greedy body
  | count + 1 => .optional greedy (.sequence body (atMost greedy body count))

/-- Between a least and a greatest number of rounds of a pattern; without a greatest number there
is no limit. -/
def repeated (greedy : Bool) (least : Nat) (greatest : Option Nat) (body : Pattern) : Pattern :=
  match greatest with
  | some greatest => copies body (atMost greedy body (greatest - least)) least
  | none =>
      match least with
      | 0 => .star greedy body
      | fewer + 1 => copies body (.plus greedy body) fewer

end Pattern

end Numbering

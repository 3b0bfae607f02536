import Numbering.Pattern.Program

/-!
# Finding a pattern in a text

From a starting place all branches of a program are followed together, character by character. The
branches stand in a list, the preferred ones first; of two branches at one address only the
preferred one goes on. When a branch gets behind the program the branches after it are given up,
and those before it may still find another end, which is then the better one. The matches of a text
are found from left to right, each one starting where the one before ended or later. An empty match
right at the end of the match before is skipped.
-/

namespace Numbering

namespace Anchor

/-- The character before a place is part of a word. -/
def wordBefore (text : Array Char) (place : Nat) : Bool :=
  match place with
  | 0 => false
  | previous + 1 => (text[previous]?).any Text.isWord

/-- The character after a place is part of a word. -/
def wordAfter (text : Array Char) (place : Nat) : Bool := (text[place]?).any Text.isWord

/-- The condition holds at a place of a text. -/
def holds (anchor : Anchor) (text : Array Char) (place : Nat) : Bool :=
  match anchor with
  | .textStart => place = 0
  | .textEnd => place = text.size
  | .lineStart => place = 0 || text[place - 1]? = some '\n'
  | .lineEnd => place = text.size || text[place]? = some '\n'
  | .wordBoundary => wordBefore text place != wordAfter text place
  | .noWordBoundary => wordBefore text place == wordAfter text place

end Anchor

namespace Program

/-- The branches at a place: the addresses that were reached, and those among them where a branch
waits for a character or is behind the program, the last ones first. -/
structure Frontier where
  reached : List Nat
  waiting : List Nat

/-- Follow a branch from an address as far as it goes without taking a character. An address that
was reached before leads nowhere. The first number bounds the addresses on the way. -/
def follow (program : Program) (text : Array Char) (place : Nat) : Nat → Nat → Frontier → Frontier
  | 0, _, frontier => frontier
  | fuel + 1, address, frontier =>
      if frontier.reached.contains address then frontier
      else
        let entered : Frontier := { frontier with reached := address :: frontier.reached }
        match program[address]? with
        | none | some (.take _) => { entered with waiting := address :: entered.waiting }
        | some (.require anchor) =>
            if anchor.holds text place then program.follow text place fuel (address + 1) entered
            else entered
        | some (.fork first second) =>
            program.follow text place fuel second (program.follow text place fuel first entered)
        | some (.jump target) => program.follow text place fuel target entered

/-- Where the branches that enter a place at some addresses wait, the preferred ones first. -/
def waitingAt (program : Program) (text : Array Char) (place : Nat) (entries : List Nat) :
    List Nat :=
  (entries.foldl (fun frontier address ↦
    program.follow text place (program.size + 1) address frontier) ⟨[], []⟩).waiting.reverse

/-- The addresses behind those where a character is taken. -/
def advance (program : Program) (char : Char) (waiting : List Nat) : List Nat :=
  waiting.filterMap fun (address : Nat) ↦
    match program[address]? with
    | some (.take set) => if set.contains char then some (address + 1) else none
    | _ => none

/-- The best end of a match, given the branches that enter a place and the best end found before.
The first argument bounds the length of what is left. -/
def bestEnd (program : Program) (text : Array Char) :
    Nat → Nat → List Nat → Option Nat → Option Nat
  | 0, _, _, best => best
  | fuel + 1, place, entries, best =>
      let waiting := program.waitingAt text place entries
      let preferred := waiting.takeWhile (· < program.size)
      let best := if preferred.length < waiting.length then some place else best
      match text[place]? with
      | none => best
      | some char =>
          let next := program.advance char preferred
          if next.isEmpty then best else program.bestEnd text fuel (place + 1) next best

/-- Where the match that starts at a place ends, if there is one. -/
def matchEnd? (program : Program) (text : Array Char) (place : Nat) : Option Nat :=
  program.bestEnd text (text.size + 1 - place) place [0] none

/-- The first match that starts at one of so many places from a given one on. -/
def findWithin? (program : Program) (text : Array Char) : Nat → Nat → Option (Nat × Nat)
  | 0, _ => none
  | count + 1, place =>
      match program.matchEnd? text place with
      | some last => some (place, last)
      | none => program.findWithin? text count (place + 1)

/-- The first match that starts at a place or after it. -/
def find? (program : Program) (text : Array Char) (place : Nat) : Option (Nat × Nat) :=
  program.findWithin? text (text.size + 1 - place) place

/-- The matches from a place on, given where the match before ended. The first argument bounds the
number of searches. -/
def findFrom (program : Program) (text : Array Char) :
    Nat → Nat → Option Nat → List (Nat × Nat)
  | 0, _, _ => []
  | fuel + 1, place, previous =>
      match program.find? text place with
      | none => []
      | some (first, last) =>
          if first = last ∧ previous = some last then
            program.findFrom text fuel (place + 1) previous
          else (first, last) :: program.findFrom text fuel last (some last)

end Program

/-- The matches of a pattern in a text, as places counted in characters. -/
def Pattern.findAll (pattern : Pattern) (text : Array Char) : List (Nat × Nat) :=
  pattern.program.findFrom text (2 * text.size + 2) 0 none

end Numbering

import Numbering.Pattern.Basic
import Numbering.Text.Digits

/-!
# Reading patterns

Patterns are written in the common notation: literal characters, escapes, `.`, classes in brackets,
groups, `|`, repetitions with lazy forms, `^`, `$`, and the flags `i`, `m`, `s` and `U` for a group
or for the rest of one. Reading resolves the flags. References back to groups and conditions on
what stands around are no patterns.
-/

namespace Numbering

/-- Why a text is not a pattern. -/
inductive PatternError where
  | unclosedGroup
  | unopenedGroup
  | unknownGroup
  | unclosedClass
  | invalidRange
  | unfinishedEscape
  | unknownEscape
  | missingOperand
  | invalidCount
  | tooLarge
deriving DecidableEq

namespace PatternError

/-- The message of an error. -/
def message : PatternError → String
  | .unclosedGroup => "unclosed group"
  | .unopenedGroup => "unopened group"
  | .unknownGroup => "unrecognized group or flag"
  | .unclosedClass => "unclosed character class"
  | .invalidRange => "invalid character class range"
  | .unfinishedEscape => "incomplete escape sequence"
  | .unknownEscape => "unrecognized escape sequence"
  | .missingOperand => "repetition operator missing expression"
  | .invalidCount => "invalid repetition count"
  | .tooLarge => "pattern is too large"

end PatternError

namespace Pattern

/-- The flags in force at a place of a pattern. -/
structure Flags where
  ignoreCase : Bool
  multiLine : Bool
  dotMatchesNewline : Bool
  swapGreed : Bool

/-- No flag is set. -/
def Flags.unset : Flags := ⟨false, false, false, false⟩

/-- The set of a literal character or class under the flags. -/
def Flags.apply (flags : Flags) (set : CharSet) : CharSet :=
  if flags.ignoreCase then .folded set else set

/-- An element of a class or an escape outside of one. -/
inductive Escape where
  | char (char : Char)
  | set (set : CharSet)
  | anchor (anchor : Anchor)

/-- The number that hexadecimal digits denote, if there are some. -/
def hexNumber? (chars : List Char) : Option Nat :=
  if chars.isEmpty then none
  else (chars.mapM (Digits.value? 16)).map (Digits.toNat 16)

/-- The character with a code, if there is one. -/
def codeChar? (code : Nat) : Option Char :=
  if code.isValidChar then some (Char.ofNat code) else none

/-- Read a code point: so many hexadecimal digits, or any number of them in braces. -/
def readCode (count : Nat) (chars : List Char) : Except PatternError (Char × List Char) :=
  let (digits, rest) :=
    match chars with
    | '\x7b' :: inner => (inner.takeWhile (· ≠ '\x7d'), (inner.dropWhile (· ≠ '\x7d')).drop 1)
    | chars => (chars.take count, chars.drop count)
  let complete :=
    match chars with
    | '\x7b' :: inner => inner.contains '\x7d'
    | chars => decide (count ≤ chars.length)
  match (hexNumber? digits).bind codeChar? with
  | some char => if complete then .ok (char, rest) else .error .unfinishedEscape
  | none => .error .unknownEscape

/-- Read an escape, given what follows the backslash. -/
def readEscape : List Char → Except PatternError (Escape × List Char)
  | [] => .error .unfinishedEscape
  | char :: rest =>
      let code (count : Nat) : Except PatternError (Escape × List Char) :=
        (readCode count rest).map fun (char, rest) ↦ (.char char, rest)
      match char with
      | 'd' => .ok (.set .digit, rest)
      | 'D' => .ok (.set (.complement .digit), rest)
      | 'w' => .ok (.set .word, rest)
      | 'W' => .ok (.set (.complement .word), rest)
      | 's' => .ok (.set .blank, rest)
      | 'S' => .ok (.set (.complement .blank), rest)
      | 'b' => .ok (.anchor .wordBoundary, rest)
      | 'B' => .ok (.anchor .noWordBoundary, rest)
      | 'A' => .ok (.anchor .textStart, rest)
      | 'z' => .ok (.anchor .textEnd, rest)
      | 'n' => .ok (.char '\n', rest)
      | 'r' => .ok (.char '\r', rest)
      | 't' => .ok (.char '\t', rest)
      | 'a' => .ok (.char '\x07', rest)
      | 'f' => .ok (.char '\x0c', rest)
      | 'v' => .ok (.char '\x0b', rest)
      | 'x' => code 2
      | 'u' => code 4
      | 'U' => code 8
      | char =>
          if char.toNat < 128 ∧ !char.isAlphanum ∧ char ≠ '<' ∧ char ≠ '>' then
            .ok (.char char, rest)
          else .error .unknownEscape

/-- Read one element of a class. Places in the text are none. -/
def readClassElement : List Char → Except PatternError (Escape × List Char)
  | [] => .error .unclosedClass
  | '\\' :: rest =>
      match readEscape rest with
      | .ok (.anchor _, _) => .error .unknownEscape
      | other => other
  | char :: rest => .ok (.char char, rest)

/-- Read an element of a class or a range of characters. -/
def readClassRange (chars : List Char) : Except PatternError (CharSet × List Char) := do
  let (first, rest) ← readClassElement chars
  match rest with
  | '-' :: next :: others =>
      if next = ']' ∨ next = '-' then
        match first with
        | .char char => .ok (.single char, rest)
        | .set set => .ok (set, rest)
        | .anchor _ => .error .unknownEscape
      else
        let (last, rest) ← readClassElement (next :: others)
        match first, last with
        | .char first, .char last =>
            if first ≤ last then .ok (.range first last, rest) else .error .invalidRange
        | _, _ => .error .invalidRange
  | _ =>
      match first with
      | .char char => .ok (.single char, rest)
      | .set set => .ok (set, rest)
      | .anchor _ => .error .unknownEscape

/-- An operation between two parts of a class. -/
inductive ClassOperation where
  | intersection
  | difference
  | symmetricDifference

/-- The set of the elements of one part of a class under the flags, or what an operation that is
waiting for its second part makes of it. -/
def Flags.applyPending (flags : Flags) (pending : Option (CharSet × ClassOperation))
    (set : CharSet) : CharSet :=
  match pending with
  | none => flags.apply set
  | some (first, .intersection) => .intersection first (flags.apply set)
  | some (first, .difference) => first.difference (flags.apply set)
  | some (first, .symmetricDifference) => first.symmetricDifference (flags.apply set)

/-- Read a named class of ASCII characters inside of another class, given what follows its opening
bracket: a colon, perhaps `^` for the complement, a name, a colon and a closing bracket. -/
def readNamedClass? : List Char → Option (CharSet × List Char)
  | ':' :: rest =>
      let negated := rest.head? = some '^'
      let rest := if negated then rest.drop 1 else rest
      let name := String.ofList (rest.takeWhile (· ≠ ':'))
      match CharSet.asciiRanges? name, rest.dropWhile (· ≠ ':') with
      | some ranges, ':' :: ']' :: rest =>
          let set := CharSet.ofRanges ranges
          some (if negated then .complement set else set, rest)
      | _, _ => none
  | _ => none

/-- The hyphens at the front of a class, which stand for themselves, and a closing bracket that is
the first element of a class otherwise. -/
def classStart (chars : List Char) : CharSet × List Char :=
  let rest := chars.dropWhile (· = '-')
  if rest.length < chars.length then (.single '-', rest)
  else
    match rest with
    | ']' :: rest => (.single ']', rest)
    | rest => (.none, rest)

/-- Read the parts of a class up to its closing bracket, given the flags, an operation that is
waiting and the union of the elements so far. The first argument bounds the number of elements. -/
def readClass (flags : Flags) : Nat → Option (CharSet × ClassOperation) → CharSet → List Char →
    Except PatternError (CharSet × List Char)
  | 0, _, _, _ => .error .unclosedClass
  | _ + 1, _, _, [] => .error .unclosedClass
  | fuel + 1, pending, set, char :: rest =>
      let operation (operation : ClassOperation) : Except PatternError (CharSet × List Char) :=
        readClass flags fuel (some (flags.applyPending pending set, operation)) .none (rest.drop 1)
      if char = ']' then .ok (flags.applyPending pending set, rest)
      else if char = '[' then
        match readNamedClass? rest with
        | some (named, rest) => readClass flags fuel pending (.union set named) rest
        | none => do
            let negated := rest.head? = some '^'
            let (start, inner) := classStart (if negated then rest.drop 1 else rest)
            let (nested, rest) ← readClass flags fuel none start inner
            let nested := if negated then .complement nested else nested
            readClass flags fuel pending (.union set nested) rest
      else if char = '&' ∧ rest.head? = some '&' then operation .intersection
      else if char = '-' ∧ rest.head? = some '-' then operation .difference
      else if char = '~' ∧ rest.head? = some '~' then operation .symmetricDifference
      else do
        let (element, rest) ← readClassRange (char :: rest)
        readClass flags fuel pending (.union set element) rest

/-- Read a class, given what follows its opening bracket. -/
def readBracket (flags : Flags) (chars : List Char) :
    Except PatternError (CharSet × List Char) := do
  let negated := chars.head? = some '^'
  let (start, inner) := classStart (if negated then chars.drop 1 else chars)
  let (set, rest) ← readClass flags (chars.length + 1) none start inner
  .ok (if negated then .complement set else set, rest)

/-- Read the flags of a group up to a colon or a closing parenthesis, which is left. Flags after a
minus sign are unset. No flag may be given twice, and the minus sign may be given once and not at
the end; the list holds what was read so far, the last one first. -/
def readFlags (flags : Flags) (given : List Char) :
    List Char → Except PatternError (Flags × List Char)
  | [] => .error .unclosedGroup
  | char :: rest =>
      let value := !given.contains '-'
      if char = ':' ∨ char = ')' then
        if given.head? = some '-' then .error .unknownGroup else .ok (flags, char :: rest)
      else if given.contains char then .error .unknownGroup
      else
        match char with
        | '-' => readFlags flags ('-' :: given) rest
        | 'i' => readFlags { flags with ignoreCase := value } ('i' :: given) rest
        | 'm' => readFlags { flags with multiLine := value } ('m' :: given) rest
        | 's' => readFlags { flags with dotMatchesNewline := value } ('s' :: given) rest
        | 'U' => readFlags { flags with swapGreed := value } ('U' :: given) rest
        | _ => .error .unknownGroup

/-- Drop the name of a group up to its closing bracket. -/
def dropGroupName (chars : List Char) : Except PatternError (List Char) :=
  let name := chars.takeWhile (· ≠ '>')
  match name, chars.dropWhile (· ≠ '>') with
  | first :: others, _ :: rest =>
      if (first.isAlpha || first = '_') &&
          others.all fun char ↦ char.isAlphanum || char = '_' || char = '.' || char = '[' ||
            char = ']' then
        .ok rest
      else .error .unknownGroup
  | _, _ => .error .unknownGroup

/-- What an opening parenthesis starts: a group with its own flags, or flags for the rest of the
group around it. -/
inductive GroupStart where
  | group (flags : Flags) (rest : List Char)
  | flags (flags : Flags) (rest : List Char)

/-- Read the start of a group, given what follows its parenthesis. -/
def readGroupStart (flags : Flags) : List Char → Except PatternError GroupStart
  | '?' :: 'P' :: '<' :: rest => (dropGroupName rest).map (.group flags)
  | '?' :: '<' :: '=' :: _ | '?' :: '<' :: '!' :: _ => .error .unknownGroup
  | '?' :: '<' :: rest => (dropGroupName rest).map (.group flags)
  | '?' :: ')' :: _ => .error .missingOperand
  | '?' :: rest => do
      let (inner, rest) ← readFlags flags [] rest
      match rest with
      | ':' :: rest => .ok (.group inner rest)
      | rest => .ok (.flags inner (rest.drop 1))
  | rest => .ok (.group flags rest)

/-- Read a decimal number with optional blanks around it. -/
def readNumber? (chars : List Char) : Option (Nat × List Char) :=
  let chars := Text.trimStart chars
  let digits := chars.takeWhile Digits.isDecimal
  let value := Digits.decimalNat digits
  if digits.isEmpty ∨ 4294967295 < value then none
  else some (value, Text.trimStart (chars.dropWhile Digits.isDecimal))

/-- Read a counted repetition, given what follows its opening brace: the least and the greatest
number of rounds. -/
def readCounts (chars : List Char) : Except PatternError ((Nat × Option Nat) × List Char) :=
  match readNumber? chars with
  | none => .error .invalidCount
  | some (least, '\x7d' :: rest) => .ok ((least, some least), rest)
  | some (least, ',' :: rest) =>
      match Text.trimStart rest with
      | '\x7d' :: rest => .ok ((least, none), rest)
      | rest =>
          match readNumber? rest with
          | some (greatest, '\x7d' :: rest) =>
              if least ≤ greatest then .ok ((least, some greatest), rest)
              else .error .invalidCount
          | _ => .error .invalidCount
  | some _ => .error .invalidCount

/-- Read a repetition operator at the front of a text, if there is one. -/
def readRepetition? : List Char → Option (Except PatternError ((Nat × Option Nat) × List Char))
  | '*' :: rest => some (.ok ((0, none), rest))
  | '+' :: rest => some (.ok ((1, none), rest))
  | '?' :: rest => some (.ok ((0, some 1), rest))
  | '\x7b' :: rest => some (readCounts rest)
  | _ => none

/-- The greatest number of parts that a counted repetition may make. -/
def greatestSize : Nat := 300000

/-- The pattern of the items of a branch, the last one first; flags leave no pattern. -/
def branchOf (items : List (Option Pattern)) : Pattern := sequenceOf (items.reverse.filterMap id)

/-- Read the branches of a group up to its closing parenthesis, which is left. The lists hold the
branches and the items read so far, the last ones first; an item without a pattern stands for
flags. The first argument bounds the number of steps. -/
def readBranches : Nat → Flags → List Pattern → List (Option Pattern) → List Char →
    Except PatternError (Pattern × List Char)
  | 0, _, _, _, _ => .error .unclosedGroup
  | fuel + 1, flags, branches, items, chars =>
      let item (pattern : Pattern) (rest : List Char) : Except PatternError (Pattern × List Char) :=
        readBranches fuel flags branches (some pattern :: items) rest
      match readRepetition? chars with
      | some repetition => do
          let ((least, greatest), rest) ← repetition
          let isLazy := rest.head? = some '?'
          let rest := if isLazy then rest.drop 1 else rest
          match items with
          | some body :: items =>
              let greedy := decide (¬isLazy) != flags.swapGreed
              if greatestSize < body.size * max least (greatest.getD 0) then .error .tooLarge
              else
                let pattern := repeated greedy least greatest body
                readBranches fuel flags branches (some pattern :: items) rest
          | _ => .error .missingOperand
      | none =>
          match chars with
          | [] => .ok (choiceOf (branchOf items :: branches).reverse, [])
          | ')' :: _ => .ok (choiceOf (branchOf items :: branches).reverse, chars)
          | '|' :: rest => readBranches fuel flags (branchOf items :: branches) [] rest
          | '(' :: rest => do
              match ← readGroupStart flags rest with
              | .flags flags rest => readBranches fuel flags branches (none :: items) rest
              | .group inner rest =>
                  let (pattern, rest) ← readBranches fuel inner [] [] rest
                  match rest with
                  | ')' :: rest => readBranches fuel flags branches (some pattern :: items) rest
                  | _ => .error .unclosedGroup
          | '[' :: rest => do
              let (set, rest) ← readBracket flags rest
              item (.oneOf set) rest
          | '\\' :: rest => do
              match ← readEscape rest with
              | (.char char, rest) => item (.oneOf (flags.apply (.single char))) rest
              | (.set set, rest) => item (.oneOf set) rest
              | (.anchor anchor, rest) => item (.holding anchor) rest
          | '.' :: rest =>
              let set := if flags.dotMatchesNewline then .all else .complement (.single '\n')
              item (.oneOf set) rest
          | '^' :: rest => item (.holding (if flags.multiLine then .lineStart else .textStart)) rest
          | '$' :: rest => item (.holding (if flags.multiLine then .lineEnd else .textEnd)) rest
          | char :: rest => item (.oneOf (flags.apply (.single char))) rest

/-- Read a pattern. -/
def parse (source : String) : Except PatternError Pattern := do
  let chars := source.toList
  let (pattern, rest) ← readBranches (chars.length + 1) .unset [] [] chars
  if rest.isEmpty then .ok pattern else .error .unopenedGroup

end Pattern

end Numbering

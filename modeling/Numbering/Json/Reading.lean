import Numbering.Json.Number
import Numbering.Value.Basic

/-!
# Reading JSON documents

A JSON document becomes a value. The entries of an object are sorted by their keys, and of several
entries with one key the last one stays. Containers may be nested 127 deep. How the numbers are
converted is left open (`Json.readWith`); `Json.read` takes `NumberToken.value`.
-/

namespace Numbering.Json

/-- White space between the parts of a document. -/
def isSpace (char : Char) : Bool := char = ' ' || char = '\n' || char = '\t' || char = '\r'

/-- Skip white space. -/
def skipSpace (chars : List Char) : List Char := chars.dropWhile isSpace

/-- The number that exactly four hexadecimal digits at the front of a text denote. -/
def takeUnit? : List Char → Option (Nat × List Char)
  | first :: second :: third :: fourth :: rest =>
      ([first, second, third, fourth].mapM (Digits.value? 16)).map (Digits.toNat 16 ·, rest)
  | _ => none

/-- Read an escape of sixteen-bit units, given what follows its `u`. Two units in a row may stand
for one character. -/
def readUnits (chars : List Char) : Except ReadError (Char × List Char) :=
  match takeUnit? chars with
  | none => .error .invalidEscape
  | some (high, rest) =>
      if 0xDC00 ≤ high ∧ high ≤ 0xDFFF then .error .loneSurrogate
      else if 0xD800 ≤ high ∧ high ≤ 0xDBFF then
        match rest with
        | '\\' :: 'u' :: rest =>
            match takeUnit? rest with
            | none => .error .invalidEscape
            | some (low, rest) =>
                if 0xDC00 ≤ low ∧ low ≤ 0xDFFF then
                  .ok (Char.ofNat (0x10000 + (high - 0xD800) * 0x400 + (low - 0xDC00)), rest)
                else .error .loneSurrogate
        | _ => .error .loneSurrogate
      else .ok (Char.ofNat high, rest)

/-- Read an escape, given what follows its backslash. -/
def readEscape : List Char → Except ReadError (Char × List Char)
  | [] => .error .unexpectedEnd
  | char :: rest =>
      match char with
      | '"' => .ok ('"', rest)
      | '\\' => .ok ('\\', rest)
      | '/' => .ok ('/', rest)
      | 'b' => .ok ('\x08', rest)
      | 'f' => .ok ('\x0c', rest)
      | 'n' => .ok ('\n', rest)
      | 'r' => .ok ('\r', rest)
      | 't' => .ok ('\t', rest)
      | 'u' => readUnits rest
      | _ => .error .invalidEscape

/-- Read a string, given what follows its opening quote. The first argument bounds the number of
characters. -/
def readChars : Nat → List Char → Except ReadError (List Char × List Char)
  | 0, _ | _ + 1, [] => .error .unexpectedEnd
  | fuel + 1, char :: rest =>
      if char = '"' then .ok ([], rest)
      else if char = '\\' then
        match readEscape rest with
        | .error error => .error error
        | .ok (char, rest) => (readChars fuel rest).map fun (chars, rest) ↦ (char :: chars, rest)
      else if char.toNat < 32 then .error .controlCharacter
      else (readChars fuel rest).map fun (chars, rest) ↦ (char :: chars, rest)

/-- Read a string, given what follows its opening quote. -/
def readString (chars : List Char) : Except ReadError (String × List Char) :=
  (readChars (chars.length + 1) chars).map fun (content, rest) ↦ (String.ofList content, rest)

/-- Read the key of an entry and the colon behind it. -/
def readKey (chars : List Char) : Except ReadError (String × List Char) :=
  match skipSpace chars with
  | '"' :: rest =>
      match readString rest with
      | .error error => .error error
      | .ok (key, rest) =>
          match skipSpace rest with
          | ':' :: rest => .ok (key, rest)
          | char :: _ => .error (.unexpectedCharacter char)
          | [] => .error .unexpectedEnd
  | char :: _ => .error (.unexpectedCharacter char)
  | [] => .error .unexpectedEnd

/-- Put an entry in its place among entries that are sorted by key, instead of one with the same
key. -/
def insertEntry (key : String) (value : Value) :
    List (String × Value) → List (String × Value)
  | [] => [(key, value)]
  | (other, present) :: entries =>
      if key < other then (key, value) :: (other, present) :: entries
      else if key = other then (key, value) :: entries
      else (other, present) :: insertEntry key value entries

/-- Read a word that stands for a value. -/
def readWord (word : String) (value : Value) (chars : List Char) :
    Except ReadError (Value × List Char) :=
  match Literal.takeWord? word.toList chars with
  | some rest => .ok (value, rest)
  | none => .error .unexpectedEnd

section Convert

variable (convert : NumberToken → Except ReadError Binary64)

/-- Read a number. -/
def readNumber (chars : List Char) : Except ReadError (Value × List Char) :=
  match scanNumber chars with
  | .error error => .error error
  | .ok (token, rest) => (convert token).map fun number ↦ (.number number, rest)

mutual

/-- Read a value that may contain containers nested so many deep. The first argument bounds the
number of steps. -/
def readValue : Nat → Nat → List Char → Except ReadError (Value × List Char)
  | 0, _, _ => .error .unexpectedEnd
  | fuel + 1, depth, chars =>
      match skipSpace chars with
      | [] => .error .unexpectedEnd
      | char :: rest =>
          if char = '"' then (readString rest).map fun (text, rest) ↦ (.string text, rest)
          else if char = '[' then
            if depth = 0 then .error .nestingLimit
            else
              match skipSpace rest with
              | ']' :: rest => .ok (.array [], rest)
              | rest =>
                  (readItems fuel (depth - 1) rest).map fun (items, rest) ↦ (.array items, rest)
          else if char = '\x7b' then
            if depth = 0 then .error .nestingLimit
            else
              match skipSpace rest with
              | '\x7d' :: rest => .ok (.object [], rest)
              | rest =>
                  (readEntries fuel (depth - 1) [] rest).map fun (entries, rest) ↦
                    (.object entries, rest)
          else if char = 'n' then readWord "null" .null (char :: rest)
          else if char = 't' then readWord "true" (.bool true) (char :: rest)
          else if char = 'f' then readWord "false" (.bool false) (char :: rest)
          else if char = '-' || Digits.isDecimal char then
            readNumber convert (char :: rest)
          else .error (.unexpectedCharacter char)

/-- Read the items of an array up to its closing bracket. -/
def readItems : Nat → Nat → List Char → Except ReadError (List Value × List Char)
  | 0, _, _ => .error .unexpectedEnd
  | fuel + 1, depth, chars =>
      match readValue fuel depth chars with
      | .error error => .error error
      | .ok (item, rest) =>
          match skipSpace rest with
          | ',' :: rest => (readItems fuel depth rest).map fun (items, rest) ↦ (item :: items, rest)
          | ']' :: rest => .ok ([item], rest)
          | char :: _ => .error (.unexpectedCharacter char)
          | [] => .error .unexpectedEnd

/-- Read the entries of an object up to its closing brace, given those before. -/
def readEntries : Nat → Nat → List (String × Value) → List Char →
    Except ReadError (List (String × Value) × List Char)
  | 0, _, _, _ => .error .unexpectedEnd
  | fuel + 1, depth, entries, chars =>
      match readKey chars with
      | .error error => .error error
      | .ok (key, rest) =>
          match readValue fuel depth rest with
          | .error error => .error error
          | .ok (value, rest) =>
              let entries := insertEntry key value entries
              match skipSpace rest with
              | ',' :: rest => readEntries fuel depth entries rest
              | '\x7d' :: rest => .ok (entries, rest)
              | char :: _ => .error (.unexpectedCharacter char)
              | [] => .error .unexpectedEnd

end

/-- The containers of a document may be nested so many deep. -/
def nestingLimit : Nat := 127

/-- Read a document with a conversion for its numbers. -/
def readWith (source : String) : Except ReadError Value :=
  let chars := source.toList
  match readValue convert (2 * chars.length + 2) nestingLimit chars with
  | .error error => .error error
  | .ok (value, rest) =>
      if (skipSpace rest).isEmpty then .ok value else .error .trailingCharacters

end Convert

/-- Read a document. -/
def read (source : String) : Except ReadError Value := readWith NumberToken.value source

end Numbering.Json

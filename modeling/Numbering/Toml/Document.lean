import Numbering.Toml.Scalar

/-!
# Reading TOML documents

A document is a sequence of lines: headers, entries and comments. `readValue` reads the value of an
entry, with arrays and inline tables inside each other up to a limit, and `readDocument` puts the
document together.
-/

namespace Numbering.Toml

/-- Skip the equals sign between a key and its value in an inline table, with the blanks, line
breaks and comments around it. -/
def skipEquals (chars : List Char) : Except ReadError (List Char) :=
  match skipSpace false chars with
  | .ok ('=' :: rest) => skipSpace false rest
  | .ok _ => .error .malformed
  | .error error => .error error

mutual

/-- Read a value that may contain containers nested so many deep. The first argument bounds the
number of steps. -/
def readValue : Nat → Nat → List Char → Except ReadError (Value × List Char)
  | 0, _, _ => .error .malformed
  | fuel + 1, depth, chars =>
      match chars with
      | [] => .error .malformed
      | char :: rest =>
          if char = '"' ∨ char = '\'' then
            (readString chars).map fun (text, rest) ↦ (.string text, rest)
          else if char = '[' then
            if depth = 0 then .error .nestingLimit
            else
              (readItems fuel (depth - 1) rest).map fun (items, rest) ↦ (.array false items, rest)
          else if char = '\x7b' then
            if depth = 0 then .error .nestingLimit
            else
              (readInline fuel (depth - 1) [] rest).map fun (entries, rest) ↦
                (.table .inline entries, rest)
          else
            let (word, rest) := takeWord chars
            (readWord word).map (·, rest)

/-- Read the items of an array up to its closing bracket; a comma may follow the last one. -/
def readItems : Nat → Nat → List Char → Except ReadError (List Value × List Char)
  | 0, _, _ => .error .malformed
  | fuel + 1, depth, chars =>
      match skipSpace false chars with
      | .error error => .error error
      | .ok (']' :: rest) => .ok ([], rest)
      | .ok chars =>
          match readValue fuel depth chars with
          | .error error => .error error
          | .ok (item, rest) =>
              match skipSpace false rest with
              | .error error => .error error
              | .ok (',' :: rest) =>
                  (readItems fuel depth rest).map fun (items, rest) ↦ (item :: items, rest)
              | .ok (']' :: rest) => .ok ([item], rest)
              | .ok _ => .error .malformed

/-- Read the entries of an inline table up to its closing brace, given those before. Line breaks and
comments may stand around keys and values, and a comma may follow the last entry. -/
def readInline : Nat → Nat → Entries → List Char → Except ReadError (Entries × List Char)
  | 0, _, _, _ => .error .malformed
  | fuel + 1, depth, entries, chars =>
      match skipSpace false chars with
      | .error error => .error error
      | .ok ('\x7d' :: rest) => .ok (entries, rest)
      | .ok chars =>
          match readKey (chars.length + 1) chars with
          | .error error => .error error
          | .ok ((path, key), rest) =>
              match skipEquals rest with
              | .error error => .error error
              | .ok rest =>
                  match readValue fuel depth rest with
                  | .error error => .error error
                  | .ok (value, rest) =>
                      match entries.addDotted path key value, skipSpace false rest with
                      | .ok entries, .ok (',' :: rest) => readInline fuel depth entries rest
                      | .ok entries, .ok ('\x7d' :: rest) => .ok (entries, rest)
                      | .error error, _ => .error error
                      | _, _ => .error .malformed

end

/-- Arrays and inline tables may be nested so many deep. -/
def nestingLimit : Nat := 80

/-- A document as read so far: its entries, and the keys of the last header. -/
structure Progress where
  entries : Entries
  header : List String

/-- Read an entry with its line break. -/
def readEntry (progress : Progress) (chars : List Char) :
    Except ReadError (Progress × List Char) :=
  match readKey (chars.length + 1) chars with
  | .error error => .error error
  | .ok ((path, key), '=' :: rest) => do
      let (value, rest) ← readValue (2 * rest.length + 2) nestingLimit (skipBlanks rest)
      let rest ← skipLine false rest
      let entries ← progress.entries.changeAt progress.header (Entries.addDotted path key value)
      .ok ({ progress with entries }, rest)
  | .ok _ => .error .malformed

/-- Read a header with its line break, given what follows its first bracket. -/
def readHeader (progress : Progress) (chars : List Char) :
    Except ReadError (Progress × List Char) :=
  match chars with
  | '[' :: chars =>
      match readKey (chars.length + 1) chars with
      | .error error => .error error
      | .ok ((path, key), ']' :: ']' :: rest) => do
          let rest ← skipLine false rest
          let entries ← progress.entries.openElement path key
          .ok (⟨entries, path ++ [key]⟩, rest)
      | .ok _ => .error .malformed
  | _ =>
      match readKey (chars.length + 1) chars with
      | .error error => .error error
      | .ok ((path, key), ']' :: rest) => do
          let rest ← skipLine false rest
          let entries ← progress.entries.openTable path key
          .ok (⟨entries, path ++ [key]⟩, rest)
      | .ok _ => .error .malformed

/-- Read the rest of a document. The first argument bounds the number of headers and entries. -/
def readRest : Nat → Progress → List Char → Except ReadError Entries
  | 0, _, _ => .error .malformed
  | fuel + 1, progress, chars =>
      match skipSpace false chars with
      | .error error => .error error
      | .ok [] => .ok progress.entries
      | .ok ('[' :: rest) =>
          match readHeader progress rest with
          | .error error => .error error
          | .ok (progress, rest) => readRest fuel progress rest
      | .ok chars =>
          match readEntry progress chars with
          | .error error => .error error
          | .ok (progress, rest) => readRest fuel progress rest

/-- Drop a byte order mark. -/
def dropMark : List Char → List Char
  | '\uFEFF' :: rest => rest
  | chars => chars

/-- Read a document. -/
def readDocument (source : String) : Except ReadError Entries :=
  let chars := dropMark source.toList
  readRest (chars.length + 1) ⟨[], []⟩ chars

end Numbering.Toml

import Numbering.Decimal.Literal
import Numbering.Toml.Basic

/-!
# Blank space, keys and strings in TOML documents

What may stand between the parts of a document, the four kinds of strings with their escapes, and
keys with dots. Control characters other than the tab stand nowhere in a document, and a carriage
return only in front of a line feed.
-/

namespace Numbering.Toml

/-- A blank inside a line. -/
def isBlank (char : Char) : Bool := char = ' ' || char = '\t'

/-- Skip the blanks inside a line. -/
def skipBlanks (chars : List Char) : List Char := chars.dropWhile isBlank

/-- The character may not stand in comments and strings on one line. -/
def isControl (char : Char) : Bool := (char.toNat < 32 && char ≠ '\t') || char.toNat = 127

/-- Skip blanks, line breaks and comments. The flag says whether a comment has begun. -/
def skipSpace : Bool → List Char → Except ReadError (List Char)
  | _, [] => .ok []
  | _, '\n' :: rest => skipSpace false rest
  | _, '\r' :: '\n' :: rest => skipSpace false rest
  | true, char :: rest => if isControl char then .error .malformed else skipSpace true rest
  | false, char :: rest =>
      if char = '#' then skipSpace true rest
      else if isBlank char then skipSpace false rest
      else .ok (char :: rest)

/-- Skip the rest of a line, which holds blanks and at most a comment, with its line break. The
flag says whether the comment has begun. -/
def skipLine : Bool → List Char → Except ReadError (List Char)
  | _, [] => .ok []
  | _, '\n' :: rest => .ok rest
  | _, '\r' :: '\n' :: rest => .ok rest
  | true, char :: rest => if isControl char then .error .malformed else skipLine true rest
  | false, char :: rest =>
      if char = '#' then skipLine true rest
      else if isBlank char then skipLine false rest
      else .error .malformed

/-- Read a character given by so many hexadecimal digits. -/
def readCode (count : Nat) (chars : List Char) : Except ReadError (Char × List Char) :=
  let digits := chars.take count
  match digits.mapM (Digits.value? 16) with
  | none => .error .malformed
  | some values =>
      let code := Digits.toNat 16 values
      if digits.length = count ∧ code.isValidChar then .ok (Char.ofNat code, chars.drop count)
      else .error .malformed

/-- Read an escape, given what follows its backslash. -/
def readEscape : List Char → Except ReadError (Char × List Char)
  | [] => .error .malformed
  | char :: rest =>
      match char with
      | 'b' => .ok ('\x08', rest)
      | 't' => .ok ('\t', rest)
      | 'n' => .ok ('\n', rest)
      | 'f' => .ok ('\x0c', rest)
      | 'r' => .ok ('\r', rest)
      | 'e' => .ok ('\x1b', rest)
      | '"' => .ok ('"', rest)
      | '\\' => .ok ('\\', rest)
      | 'x' => readCode 2 rest
      | 'u' => readCode 4 rest
      | 'U' => readCode 8 rest
      | _ => .error .malformed

/-- Read a string in double quotes, given what follows the opening one. The first argument bounds
the number of characters. -/
def readBasic : Nat → List Char → Except ReadError (List Char × List Char)
  | 0, _ | _ + 1, [] => .error .malformed
  | fuel + 1, char :: rest =>
      if char = '"' then .ok ([], rest)
      else if char = '\\' then
        match readEscape rest with
        | .error error => .error error
        | .ok (char, rest) => (readBasic fuel rest).map fun (chars, rest) ↦ (char :: chars, rest)
      else if isControl char then .error .malformed
      else (readBasic fuel rest).map fun (chars, rest) ↦ (char :: chars, rest)

/-- Read a string in single quotes, given what follows the opening one. -/
def readLiteral : List Char → Except ReadError (List Char × List Char)
  | [] => .error .malformed
  | char :: rest =>
      if char = '\'' then .ok ([], rest)
      else if isControl char then .error .malformed
      else (readLiteral rest).map fun (chars, rest) ↦ (char :: chars, rest)

/-- Drop a line break at the start of a string of several lines. -/
def dropLineBreak : List Char → List Char
  | '\n' :: rest => rest
  | '\r' :: '\n' :: rest => rest
  | chars => chars

/-- Drop blanks and line breaks. -/
def dropSpace : List Char → List Char
  | [] => []
  | '\r' :: '\n' :: rest => dropSpace rest
  | char :: rest => if isBlank char || char = '\n' then dropSpace rest else char :: rest

/-- Drop blanks and line breaks, given what follows a backslash at the end of a line; nothing but
blanks may stand between the backslash and the line break. -/
def dropEscapedBreak? (chars : List Char) : Option (List Char) :=
  match skipBlanks chars with
  | '\n' :: rest => some (dropSpace rest)
  | '\r' :: '\n' :: rest => some (dropSpace rest)
  | _ => none

/-- The closing quotes of a string of several lines: three of them, after at most two that belong
to the string. -/
def closing? (quote : Char) : List Char → Option (List Char × List Char)
  | first :: second :: third :: rest =>
      if first = quote ∧ second = quote ∧ third = quote then
        let extra := (rest.takeWhile (· = quote)).take 2
        some (extra, rest.drop extra.length)
      else none
  | _ => none

/-- Read a string of several lines up to its closing quotes. Only a string in double quotes has
escapes. The first argument bounds the number of characters. -/
def readLines (quote : Char) : Nat → List Char → Except ReadError (List Char × List Char)
  | 0, _ | _ + 1, [] => .error .malformed
  | fuel + 1, char :: rest =>
      let next (char : Char) (rest : List Char) : Except ReadError (List Char × List Char) :=
        (readLines quote fuel rest).map fun (chars, rest) ↦ (char :: chars, rest)
      match closing? quote (char :: rest) with
      | some closed => .ok closed
      | none =>
          if char = '\\' ∧ quote = '"' then
            match dropEscapedBreak? rest with
            | some rest => readLines quote fuel rest
            | none =>
                match readEscape rest with
                | .error error => .error error
                | .ok (char, rest) => next char rest
          else if char = '\n' then next char rest
          else if char = '\r' then
            if rest.head? = some '\n' then next char rest else .error .malformed
          else if isControl char then .error .malformed
          else next char rest

/-- Read a string of any kind, given the text from its opening quote on. -/
def readString (chars : List Char) : Except ReadError (String × List Char) :=
  let content : Except ReadError (List Char × List Char) :=
    match chars with
    | '"' :: '"' :: '"' :: rest => readLines '"' (chars.length + 1) (dropLineBreak rest)
    | '\'' :: '\'' :: '\'' :: rest => readLines '\'' (chars.length + 1) (dropLineBreak rest)
    | '"' :: rest => readBasic (chars.length + 1) rest
    | '\'' :: rest => readLiteral rest
    | _ => .error .malformed
  content.map fun (content, rest) ↦ (String.ofList content, rest)

/-- A key without quotes consists of ASCII letters, digits, underscores and hyphens. -/
def isKeyPart (char : Char) : Bool := char.isAlphanum || char = '_' || char = '-'

/-- Read one key between dots. -/
def readSimpleKey (chars : List Char) : Except ReadError (String × List Char) :=
  match chars with
  | '"' :: rest =>
      (readBasic (chars.length + 1) rest).map fun (key, rest) ↦ (String.ofList key, rest)
  | '\'' :: rest => (readLiteral rest).map fun (key, rest) ↦ (String.ofList key, rest)
  | _ =>
      let key := chars.takeWhile isKeyPart
      if key.isEmpty then .error .malformed
      else .ok (String.ofList key, chars.dropWhile isKeyPart)

/-- Read a key with its dots, and the blanks around its parts: the keys in front of the last dot,
and the last one. The first argument bounds the number of parts. -/
def readKey : Nat → List Char → Except ReadError ((List String × String) × List Char)
  | 0, _ => .error .malformed
  | fuel + 1, chars =>
      match readSimpleKey (skipBlanks chars) with
      | .error error => .error error
      | .ok (key, rest) =>
          match skipBlanks rest with
          | '.' :: rest =>
              (readKey fuel rest).map fun ((path, last), rest) ↦ ((key :: path, last), rest)
          | rest => .ok (([], key), rest)

end Numbering.Toml

import Numbering.Binary64.Basic

/-!
# TOML documents

The values of a TOML document, and how a document is put together from headers and dotted keys. A
table remembers how it came to be, because that decides what may still be added to it:

* a table with a header of its own, or written in braces, takes nothing more from elsewhere;
* a table that only exists because a longer header goes through it may still get its own header;
* a table made by a dotted key grows by further dotted keys.
-/

namespace Numbering.Toml

/-- How a table came to be. -/
inductive TableKind where
  | explicit
  | implicit
  | dotted
  | inline
deriving DecidableEq

/-- A value of a document. Whether an integer fits is settled by whoever looks at it, and so is what
becomes of an outsized float, whose decimal is too large for a number; an array of tables comes from
headers in double brackets. -/
inductive Value where
  | string (text : String)
  | integer (number : Int)
  | float (number : Binary64)
  | outsized
  | boolean (truth : Bool)
  | dateTime
  | array (ofTables : Bool) (items : List Value)
  | table (kind : TableKind) (entries : List (String × Value))

/-- The entries of a table, in order. -/
abbrev Entries := List (String × Value)

/-- Why a text is not a document, or not the one that is wanted. -/
inductive ReadError where
  | malformed
  | duplicateKey (key : String)
  | nestingLimit
  | wrongType (key : String)
deriving DecidableEq

namespace ReadError

/-- The message of an error. -/
def message : ReadError → String
  | .malformed => "malformed document"
  | .duplicateKey key => "duplicate key " ++ key
  | .nestingLimit => "nesting limit exceeded"
  | .wrongType key => "wrong type of value for " ++ key

end ReadError

namespace Entries

/-- Replace the value of a key, or add one at the end. -/
def update (key : String) (change : Option Value → Except ReadError Value) :
    Entries → Except ReadError Entries
  | [] => (change none).map fun value ↦ [(key, value)]
  | (other, value) :: entries =>
      if other = key then (change (some value)).map fun value ↦ (other, value) :: entries
      else (update key change entries).map ((other, value) :: ·)

/-- Change the last of some values. -/
def changeLast (change : Value → Except ReadError Value) :
    List Value → Except ReadError (List Value)
  | [] => .error .malformed
  | [value] => (change value).map ([·])
  | value :: values => (changeLast change values).map (value :: ·)

/-- Go down a path of keys and change the entries of the table at its end. Missing tables are made
of the given kind; an array of tables is entered at its last one. Dotted keys do not enter a table
that has a header of its own. -/
def descend (made : TableKind) (change : TableKind → Entries → Except ReadError Entries) :
    List String → TableKind → Entries → Except ReadError Entries
  | [], kind, entries => change kind entries
  | key :: path, _, entries =>
      let enter (kind : TableKind) (entries : Entries) : Except ReadError Value :=
        (descend made change path kind entries).map (.table kind)
      update key (fun
        | none => enter made []
        | some (.table kind entries) =>
            if kind = .inline ∨ (made = .dotted ∧ kind = .explicit) then .error (.duplicateKey key)
            else enter kind entries
        | some (.array true items) =>
            (changeLast (fun
              | .table kind entries => enter kind entries
              | _ => .error .malformed) items).map (.array true)
        | some _ => .error (.duplicateKey key)) entries

/-- Add an entry for a key that is new. -/
def add (key : String) (value : Value) (entries : Entries) : Except ReadError Entries :=
  update key (fun
    | none => .ok value
    | some _ => .error (.duplicateKey key)) entries

/-- Add a value under a dotted key, given the keys in front of the last one. These lead through
tables made by dotted keys only. -/
def addDotted (path : List String) (key : String) (value : Value) (entries : Entries) :
    Except ReadError Entries :=
  if path.isEmpty then add key value entries
  else
    descend .dotted (fun kind entries ↦
      if kind = .dotted then add key value entries else .error (.duplicateKey key))
      path .explicit entries

/-- Start the table of a header, given the keys in front of the last one. -/
def openTable (path : List String) (key : String) (entries : Entries) :
    Except ReadError Entries :=
  descend .implicit (fun _ entries ↦
    update key (fun
      | none => .ok (.table .explicit [])
      | some (.table .implicit entries) => .ok (.table .explicit entries)
      | some _ => .error (.duplicateKey key)) entries) path .explicit entries

/-- Start one more table of an array of tables, given the keys in front of the last one. -/
def openElement (path : List String) (key : String) (entries : Entries) :
    Except ReadError Entries :=
  descend .implicit (fun _ entries ↦
    update key (fun
      | none => .ok (.array true [.table .explicit []])
      | some (.array true items) => .ok (.array true (items ++ [.table .explicit []]))
      | some _ => .error (.duplicateKey key)) entries) path .explicit entries

/-- Change the table that the last header started. -/
def changeAt (path : List String) (change : Entries → Except ReadError Entries)
    (entries : Entries) : Except ReadError Entries :=
  descend .implicit (fun _ entries ↦ change entries) path .explicit entries

/-- The value of a key. -/
def lookup? (key : String) : Entries → Option Value
  | [] => none
  | (other, value) :: entries => if other = key then some value else lookup? key entries

end Entries

end Numbering.Toml

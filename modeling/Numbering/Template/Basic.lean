import Numbering.KeyPath
import Numbering.Template.Conversion
import Numbering.Text.Quoted

/-!
# Templates

A template is literal text interleaved with directives. A directive says which argument it takes,
how the text of the argument is signed and padded, and by which conversion the text is made.
-/

namespace Numbering

/-- The argument that a directive takes: the next one, the one with a number counted from one, or
a part of the first one. -/
inductive Reference where
  | next
  | position (number : Nat)
  | path (path : KeyPath)
deriving DecidableEq

/-- The character that fills up to the width. -/
inductive Padding where
  | zero
  | custom (char : Char)
deriving DecidableEq

/-- One placeholder of a template. -/
structure Directive where
  reference : Reference
  forceSign : Bool
  padding : Option Padding
  leftAlign : Bool
  width : Option Nat
  precision : Option Nat
  conversion : Conversion
deriving DecidableEq

/-- A piece of a template: literal text, or a directive. -/
inductive Segment where
  | literal (text : String)
  | directive (directive : Directive)
deriving DecidableEq

/-- A template with the text it was read from. -/
structure Template where
  source : String
  segments : List Segment
deriving DecidableEq

/-- Why a text is not a template. -/
inductive TemplateError where
  | unexpectedPlaceholder (offset : Nat)
  | malformedKey (key : String)
  | mixedReference
deriving DecidableEq

namespace TemplateError

/-- The message of an error. -/
def message : TemplateError → String
  | .unexpectedPlaceholder offset => "unexpected placeholder at offset " ++ Digits.text offset
  | .malformedKey key => "failed to parse named argument key " ++ Text.quoted key
  | .mixedReference => "mixing positional and named placeholders is not supported"

end TemplateError

namespace Template

/-- The directives of a template, in order. -/
def directives (template : Template) : List Directive :=
  template.segments.filterMap fun
    | .directive directive => some directive
    | .literal _ => none

end Template

end Numbering

import Numbering.Binary64.Arithmetic
import Numbering.Binary64.Bits
import Numbering.Text.Blank
import Numbering.Decimal.Literal
import Numbering.Numeral.Reading
import Numbering.Numeral.Text
import Numbering.Numeral.Radix
import Numbering.Numeral.Notation
import Numbering.Text.Unprintable
import Numbering.Text.Word
import Numbering.Text.CaseFold
import Numbering.Text.Utf8
import Numbering.Text.Quoted
import Numbering.KeyPath
import Numbering.Template.Parsing
import Numbering.Value.Description
import Numbering.Template.Rendering
import Numbering.Log
import Numbering.Template.Cache
import Numbering.Settings
import Numbering.Override
import Numbering.NumberSequence
import Numbering.Pattern.Matching
import Numbering.Pattern.Parsing
import Numbering.MarkedText
import Numbering.NumberingPass
import Numbering.Json.Reading
import Numbering.SettingsFile
import Numbering.Toml.Document
import Numbering.CommandLine.NumberFile
import Numbering.CommandLine.FormatLine
import Numbering.Main
import Numbering.Proofs.KeyPath.Grammar
import Numbering.Proofs.Template.Scanning
import Numbering.Proofs.Template.Grammar
import Numbering.Proofs.Template.Decomposition
import Numbering.Proofs.MarkedText.Ranges
import Numbering.Proofs.MarkedText.Editing
import Numbering.Proofs.Text.Lines
import Numbering.Proofs.Pattern.Anchors
import Numbering.Proofs.MarkedText.LineStarts
import Numbering.Proofs.Pattern.Matches
import Numbering.Proofs.MarkedText.Places
import Numbering.Proofs.NumberingPass.Pass
import Numbering.Proofs.NumberingPass.Override
import Numbering.Proofs.NumberingPass.AllOrNothing
import Numbering.Proofs.NumberingPass.Edits
import Numbering.Proofs.NumberingPass.EveryLine
import Numbering.Proofs.NumberingPass.Failure
import Numbering.Proofs.Binary64.Powers
import Numbering.Proofs.Binary64.Rounding
import Numbering.Proofs.Decimal.Value
import Numbering.Proofs.Decimal.Literal
import Numbering.Proofs.Numeral.Reading
import Numbering.Proofs.Numeral.ReadBack
import Numbering.Proofs.Template.Parsing
import Numbering.Proofs.Template.Alternatives
import Numbering.Proofs.Template.FirstMatch
import Numbering.Proofs.Template.Rendering
import Numbering.Proofs.Template.Concatenation
import Numbering.Proofs.NumberSequence.Numberable
import Numbering.Proofs.Binary64.Integers
import Numbering.Proofs.Template.CacheHistory
import Numbering.Proofs.NumberSequence.Integers
import Numbering.Proofs.NumberSequence.Cursors
import Numbering.Proofs.CommandLine.Files
import Numbering.Proofs.CommandLine.Replacement
import Numbering.Proofs.CommandLine.NumberFile
import Numbering.Proofs.CommandLine.FileWriting
import Numbering.Proofs.CommandLine.Modes
import Numbering.Proofs.CommandLine.InputLine
import Numbering.Proofs.CommandLine.Prompt
import Numbering.Proofs.Binary64.Representable
import Numbering.Proofs.Decimal.Bounds
import Numbering.Proofs.Numeral.DigitReading
import Numbering.Proofs.Numeral.Radix
import Numbering.Proofs.Numeral.IntegerPart
import Numbering.Proofs.Value.Sameness
import Numbering.Proofs.Value.Normal
import Numbering.Proofs.Template.ConversionTexts
import Numbering.Proofs.Template.SameArguments
import Numbering.Proofs.Template.PlainTexts
import Numbering.Proofs.Numeral.Points
import Numbering.Proofs.Override.SettingsTexts
import Numbering.Proofs.Json.NumberTokens
import Numbering.Proofs.Json.NumberTexts
import Numbering.Proofs.Json.NumberValues
import Numbering.Proofs.Json.Strings
import Numbering.Proofs.Json.Entries
import Numbering.Proofs.Json.Documents
import Numbering.Proofs.Json.ReadBack
import Numbering.Proofs.Decimal.HalfUp
import Numbering.Proofs.Numeral.PointText
import Numbering.Proofs.Numeral.Fixed
import Numbering.Proofs.Numeral.Significant
import Numbering.Proofs.Binary64.Scaling
import Numbering.Proofs.Numeral.RoundedSums
import Numbering.Proofs.Template.Padding
import Numbering.Proofs.Binary64.Nearness
import Numbering.Proofs.Decimal.Shortest
import Numbering.Proofs.Numeral.SeventeenDigits
import Numbering.Proofs.Numeral.PlainLayout
import Numbering.Proofs.Numeral.SignedTexts
import Numbering.Proofs.Numeral.RadixDigits
import Numbering.Proofs.Template.Signs
import Numbering.Proofs.Numeral.IntegerTexts
import Numbering.Proofs.Numeral.SignedDigits
import Numbering.Proofs.Override.ConstantFormats
import Numbering.Proofs.Template.LongestTemplate
import Numbering.Proofs.Template.CountedPositions
import Numbering.Proofs.Json.NumberWriters
import Numbering.Proofs.Template.JsonNumbers
import Numbering.Proofs.KeyPath.RoundTrip
import Numbering.Proofs.Template.SurplusArguments
import Numbering.Proofs.Binary64.CorrectRounding
import Numbering.Proofs.Numeral.LongestLiteral
import Numbering.Proofs.Numeral.LiteralReading
import Numbering.Proofs.Numeral.DigitRanges
import Numbering.Proofs.Checked.MachineIntegers
import Numbering.Proofs.Checked.NumberTexts
import Numbering.Proofs.Checked.Radix
import Numbering.Proofs.Checked.Conversions
import Numbering.Proofs.Checked.Rendering
import Numbering.Proofs.Checked.Templates
import Numbering.Proofs.Checked.Engine
import Numbering.Proofs.Template.DelayedArguments
import Numbering.Proofs.MarkedText.Faults
import Numbering.Proofs.Template.Escapes
import Numbering.Proofs.Binary64.Wrapping
import Numbering.Proofs.Template.Unsigned
import Numbering.Proofs.CommandLine.SettingsFile
import Numbering.Proofs.CommandLine.OptionOrder

import HeaderBindings.Main
import HeaderBindings.Parameter.Reading
import HeaderBindings.Proofs.FirstWins
import HeaderBindings.Proofs.Binding.Account
import HeaderBindings.Proofs.Binding.Accounting
import HeaderBindings.Proofs.Binding.Concatenation
import HeaderBindings.Proofs.Parameter.Reading
import HeaderBindings.Proofs.Argument.RoundTrip
import HeaderBindings.Proofs.Constant.Tree
import HeaderBindings.Proofs.Constant.Lexing
import HeaderBindings.Proofs.Constant.MacroSearch
import HeaderBindings.Proofs.Constant.Parsing
import HeaderBindings.Proofs.Constant.Meaning
import HeaderBindings.Proofs.Constant.Writing
import HeaderBindings.Proofs.PerlModule.Quoting
import HeaderBindings.Proofs.Header.Comments
import HeaderBindings.Proofs.Argument.Indirection
import HeaderBindings.Proofs.PerlModule.Reading
import HeaderBindings.Proofs.Binding.Names
import HeaderBindings.Proofs.PerlModule.RoundTrip
import HeaderBindings.Proofs.Header.Uncommented
import HeaderBindings.Proofs.Header.Declarations
import HeaderBindings.Proofs.Argument.WellFormed
import HeaderBindings.Proofs.Preprocessor.Segments
import HeaderBindings.Proofs.Constant.Extraction
import HeaderBindings.Proofs.Call.Reading
import HeaderBindings.Proofs.Call.Execution
import HeaderBindings.Proofs.Call.References
import HeaderBindings.Proofs.Call.Agreement
import HeaderBindings.Proofs.Binding.Independence
import HeaderBindings.Proofs.Binding.Endings
import HeaderBindings.Proofs.Header.SourceLines
import HeaderBindings.Proofs.Files.Tree
import HeaderBindings.Proofs.Config.Loading
import HeaderBindings.Proofs.NativeType.Profiles
import HeaderBindings.Proofs.NativeType.Layers
import HeaderBindings.Proofs.CommandLine.Output
import HeaderBindings.Proofs.CommandLine.Setup
import HeaderBindings.Proofs.CommandLine.Status
import HeaderBindings.Proofs.Text.Brackets
import HeaderBindings.Proofs.Text.Numerals
import HeaderBindings.Proofs.Argument.Splitting
import HeaderBindings.Proofs.Argument.Writing
import HeaderBindings.Proofs.Argument.Appendix
import HeaderBindings.Proofs.Argument.Annotation
import HeaderBindings.Proofs.Decimal.Bits
import HeaderBindings.Proofs.Decimal.Rounding
import HeaderBindings.Proofs.Decimal.Nearest
import HeaderBindings.Proofs.Constant.FloatLiteral
import HeaderBindings.Proofs.Constant.FloatReading
import HeaderBindings.Proofs.Text.Squeezing
import HeaderBindings.Proofs.Parameter.Rereading
import HeaderBindings.Proofs.Argument.Axes
import HeaderBindings.Proofs.Argument.Collapsing
import HeaderBindings.Proofs.Binding.Parameters
import HeaderBindings.Proofs.Constant.Formula
import HeaderBindings.Proofs.Constant.NumberTokens
import HeaderBindings.Proofs.Constant.Scanning
import HeaderBindings.Proofs.Constant.Refusal
import HeaderBindings.Proofs.Constant.Phrases
import HeaderBindings.Proofs.Constant.Candidates
import HeaderBindings.Proofs.Header.Continuations
import HeaderBindings.Proofs.Binding.ShortNames
import HeaderBindings.Proofs.Binding.Blocks
import HeaderBindings.Proofs.Argument.Nesting
import HeaderBindings.Proofs.Constant.Requests
import HeaderBindings.Proofs.Datum.Mappings
import HeaderBindings.Proofs.Config.Applying
import HeaderBindings.Proofs.Xml.Values
import HeaderBindings.Proofs.Manifest.Values
import HeaderBindings.Proofs.Manifest.LegalText

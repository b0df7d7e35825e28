import HeaderBind.Build.Basic
import HeaderBind.CType.Request
import HeaderBind.Lexer.Recorder
import HeaderBind.Main
import HeaderBind.Release.Update
import HeaderBind.Proofs.Header.Nesting
import HeaderBind.Proofs.Method.Inherit
import HeaderBind.Proofs.Class.Whole
import HeaderBind.Proofs.Class.Inherit
import HeaderBind.Proofs.Class.Override
import HeaderBind.Proofs.Binding.Sound
import HeaderBind.Proofs.Binding.Declaring
import HeaderBind.Proofs.Header.Soundness
import HeaderBind.Proofs.Header.Flattening
import HeaderBind.Proofs.Header.Canonical
import HeaderBind.Proofs.Pattern.Matching
import HeaderBind.Proofs.Lexer.Account
import HeaderBind.Proofs.Lexer.Restore
import HeaderBind.Proofs.Binding.Order
import HeaderBind.Proofs.CType.Position
import HeaderBind.Proofs.Code.Labels
import HeaderBind.Proofs.Binding.Tidy
import HeaderBind.Proofs.Header.Tidiness
import HeaderBind.Proofs.Binding.Written
import HeaderBind.Proofs.Method.Exits
import HeaderBind.Proofs.Method.Quiet
import HeaderBind.Proofs.Method.Getters
import HeaderBind.Proofs.Class.Functions
import HeaderBind.Proofs.Blind
import HeaderBind.Proofs.Binding.Composed
import HeaderBind.Proofs.Binding.Settled
import HeaderBind.Proofs.Method.Composed
import HeaderBind.Proofs.Class.Composed
import HeaderBind.Proofs.Header.Logging
import HeaderBind.Proofs.Header.Titles
import HeaderBind.Proofs.Header.Undisturbed
import HeaderBind.Proofs.Class.Trace
import HeaderBind.Proofs.Class.Proxies
import HeaderBind.Proofs.Method.Results
import HeaderBind.Proofs.Release.Failure
import HeaderBind.Proofs.Method.Reading
import HeaderBind.Proofs.Header.RoundTrip
import HeaderBind.Proofs.Header.Passing
import HeaderBind.Proofs.Header.Comments
import HeaderBind.Proofs.Header.Docstrings
import HeaderBind.Proofs.Header.Definitions
import HeaderBind.Proofs.Header.Aggregates
import HeaderBind.Proofs.Doc
import HeaderBind.Proofs.Lexer.Sharing
import HeaderBind.Proofs.Method.Operands
import HeaderBind.Proofs.Header.Attributes
import HeaderBind.Proofs.Header.Banner
import HeaderBind.Proofs.Header.Constants
import HeaderBind.Proofs.Header.Includes
import HeaderBind.Proofs.Release.Zone
import HeaderBind.Proofs.Build
import HeaderBind.Proofs.Pattern.Searching
import HeaderBind.Proofs.Doc.Annotations
import HeaderBind.Proofs.Method.Notes
import HeaderBind.Proofs.Binding.Registering
import HeaderBind.Proofs.Header.Registering

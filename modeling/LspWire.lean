import LspWire.Uri.Fragment
import LspWire.Method.Registry
import LspWire.Document.Construct
import LspWire.Graph.Dump
import LspWire.Proofs.Members
import LspWire.Proofs.Merged
import LspWire.Proofs.Conformance
import LspWire.Proofs.Fitting
import LspWire.Proofs.Invertible
import LspWire.Proofs.Lossless
import LspWire.Proofs.Rewriting
import LspWire.Proofs.Unions
import LspWire.Proofs.JsonText
import LspWire.Proofs.TextRoundTrip
import LspWire.Proofs.Dump
import LspWire.Proofs.Agreement
import LspWire.Proofs.Inheritance
import LspWire.Proofs.Addressing
import LspWire.Proofs.Providers
import LspWire.Proofs.Symbols
import LspWire.Proofs.KeyOrder
import LspWire.Proofs.Untyped
import LspWire.Proofs.Idle
import LspWire.Proofs.Dispatch
import LspWire.Proofs.Grammar
import LspWire.Proofs.Fragment
import LspWire.Proofs.DocumentLines
import LspWire.Proofs.Edits
import LspWire.Proofs.Extras
import LspWire.Proofs.Exclusive
import LspWire.Proofs.ConstantNames

import Dimensional.Text.Blank
import Dimensional.Text.Alphabetic
import Dimensional.Text.Quoted
import Dimensional.Text.Characters
import Dimensional.Number.Magnitude
import Dimensional.Number.Shortest
import Dimensional.Number.Layout
import Dimensional.Number.Reading
import Dimensional.Number.Power
import Dimensional.Number.Fraction
import Dimensional.Dimension
import Dimensional.Dimension.Canonical
import Dimensional.Log
import Dimensional.Failure
import Dimensional.Units.Measure
import Dimensional.Units.Registry
import Dimensional.Units.Standard
import Dimensional.Units.Fault
import Dimensional.Units.Expression
import Dimensional.Units.Trace
import Dimensional.Quantity
import Dimensional.Quantity.Arithmetic
import Dimensional.Quantity.Power
import Dimensional.Quantity.Transcendental
import Dimensional.Quantity.Comparison
import Dimensional.Json.Value
import Dimensional.Json.Reading
import Dimensional.Quantity.Operations
import Dimensional.Quantity.Json
import Dimensional.Quantity.Program
import Dimensional.Text.Lines
import Dimensional.Units.Table
import Dimensional.Version
import Dimensional.Handles.Status
import Dimensional.Handles.Buffer
import Dimensional.Handles.Session
import Dimensional.Dynamic.Operand
import Dimensional.Dynamic.Step
import Dimensional.Dynamic.Exports
import Dimensional.Toml.Item
import Dimensional.Toml.Table
import Dimensional.Toml.Scalar
import Dimensional.Toml.Quoted
import Dimensional.Toml.Value
import Dimensional.Toml.Document
import Dimensional.Files
import Dimensional.Release.Package
import Dimensional.Release.Manifest
import Dimensional.Release.Heading
import Dimensional.Release.ProjectCall
import Dimensional.Release.Check
import Dimensional.Release.Options
import Dimensional.Release.Program
import Dimensional.Docs.Port
import Dimensional.Docs.Config
import Dimensional.Docs.Listing
import Dimensional.Docs.Target
import Dimensional.Docs.Site
import Dimensional.Docs.Program
import Dimensional.Main
import Dimensional.Proofs.Number.ExponentField
import Dimensional.Proofs.Number.Fraction
import Dimensional.Proofs.Number.Product
import Dimensional.Proofs.Number.SmallFraction
import Dimensional.Proofs.Dimension.Exact
import Dimensional.Proofs.Text.Classes
import Dimensional.Proofs.Text.Plain
import Dimensional.Proofs.Units.Grammar
import Dimensional.Proofs.Units.Literal
import Dimensional.Proofs.Units.Power
import Dimensional.Proofs.Units.Reading
import Dimensional.Proofs.Number.Digits
import Dimensional.Proofs.Dimension.Canonical
import Dimensional.Proofs.Units.Canonical
import Dimensional.Proofs.Units.Range
import Dimensional.Proofs.Dimension.Made
import Dimensional.Proofs.Quantity.Values
import Dimensional.Proofs.Quantity.Range
import Dimensional.Proofs.Handles.Bytes
import Dimensional.Proofs.Handles.Request
import Dimensional.Proofs.Handles.Refinement
import Dimensional.Proofs.Handles.Record
import Dimensional.Proofs.Json.Reading
import Dimensional.Proofs.Quantity.Json
import Dimensional.Proofs.Text.Lines
import Dimensional.Proofs.Release.Heading
import Dimensional.Proofs.Release.ProjectCall
import Dimensional.Proofs.Files
import Dimensional.Proofs.Release.Manifest
import Dimensional.Proofs.Release.Check
import Dimensional.Proofs.Release.Permission
import Dimensional.Proofs.Text.Quoted
import Dimensional.Proofs.Units.Registry
import Dimensional.Proofs.Units.Table
import Dimensional.Proofs.Dynamic.Arithmetic
import Dimensional.Proofs.Toml.Local
import Dimensional.Proofs.Toml.LocalValue
import Dimensional.Proofs.Toml.Document
import Dimensional.Proofs.Toml.Table
import Dimensional.Proofs.Toml.Declaration
import Dimensional.Proofs.Toml.Origin
import Dimensional.Proofs.Release.Rereading
import Dimensional.Proofs.Release.Settled
import Dimensional.Proofs.Quantity.Power
import Dimensional.Proofs.Quantity.Scalar
import Dimensional.Proofs.Units.Fault
import Dimensional.Proofs.Handles.Precedence
import Dimensional.Proofs.Handles.Delivery
import Dimensional.Proofs.Quantity.Decoding
import Dimensional.Proofs.Dynamic.Comparison
import Dimensional.Proofs.Number.LargeInteger
import Dimensional.Proofs.Dynamic.Power
import Dimensional.Proofs.Release.ProjectVersion
import Dimensional.Proofs.Release.KeyLine
import Dimensional.Proofs.Release.Selection
import Dimensional.Proofs.Release.Comment
import Dimensional.Proofs.Release.Rewritable
import Dimensional.Proofs.Units.Verdict
import Dimensional.Proofs.Docs.Port
import Dimensional.Proofs.Docs.Config
import Dimensional.Proofs.Docs.Listing
import Dimensional.Proofs.Docs.Site
import Dimensional.Proofs.Units.Layout
import Dimensional.Proofs.Units.Cursor
import Dimensional.Proofs.Units.Walk
import Dimensional.Proofs.Units.Retracing
import Dimensional.Proofs.Units.Progress

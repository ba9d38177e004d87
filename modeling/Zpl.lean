import Zpl.Binary64.Basic
import Zpl.Binary64.Hexadecimal
import Zpl.Binary64.Shortest
import Zpl.Circumstances
import Zpl.Command
import Zpl.CommandLine.Grammar
import Zpl.CommandLine.Options
import Zpl.CommandLine.Run
import Zpl.Component.Basic
import Zpl.Component.Render
import Zpl.Component.Token
import Zpl.Component.Validation
import Zpl.Decimal
import Zpl.Event
import Zpl.Fault
import Zpl.Fault.Incident
import Zpl.Fault.Wording
import Zpl.File
import Zpl.Format.Layout
import Zpl.Format.Pattern
import Zpl.Format.Real
import Zpl.Format.Spec
import Zpl.Integer
import Zpl.Label.Basic
import Zpl.Main
import Zpl.Number
import Zpl.Numeral
import Zpl.Print.Backend
import Zpl.Print.Diagnosis
import Zpl.Print.Job
import Zpl.Print.Link
import Zpl.Print.Settings
import Zpl.Proofs.Calling
import Zpl.Proofs.CommandLine.Call
import Zpl.Proofs.CommandLine.Exit
import Zpl.Proofs.CommandLine.Label
import Zpl.Proofs.CommandLine.Printer
import Zpl.Proofs.CommandLine.Reading
import Zpl.Proofs.CommandLine.Request
import Zpl.Proofs.CommandLine.Settings
import Zpl.Proofs.CommandLine.Sinks
import Zpl.Proofs.CommandLine.Status
import Zpl.Proofs.Component.Alignment
import Zpl.Proofs.Component.Altering
import Zpl.Proofs.Component.Arranging
import Zpl.Proofs.Component.Background
import Zpl.Proofs.Component.Centering
import Zpl.Proofs.Component.Corner
import Zpl.Proofs.Component.Decoding
import Zpl.Proofs.Component.Deed
import Zpl.Proofs.Component.Discipline
import Zpl.Proofs.Component.Drawing
import Zpl.Proofs.Component.Editing
import Zpl.Proofs.Component.Filling
import Zpl.Proofs.Component.Following
import Zpl.Proofs.Component.Footprint
import Zpl.Proofs.Component.Forms
import Zpl.Proofs.Component.Imprint
import Zpl.Proofs.Component.Margins
import Zpl.Proofs.Component.Order
import Zpl.Proofs.Component.Ownership
import Zpl.Proofs.Component.Placing
import Zpl.Proofs.Component.Recipe
import Zpl.Proofs.Component.Setting
import Zpl.Proofs.Component.Shade
import Zpl.Proofs.Component.Snapshot
import Zpl.Proofs.Component.Sparing
import Zpl.Proofs.Component.Stacking
import Zpl.Proofs.Component.Steady
import Zpl.Proofs.Component.Thickness
import Zpl.Proofs.Component.Touching
import Zpl.Proofs.Component.Validity
import Zpl.Proofs.Label.Code
import Zpl.Proofs.Label.Composed
import Zpl.Proofs.Label.Geometry
import Zpl.Proofs.Label.Grammar
import Zpl.Proofs.Label.History
import Zpl.Proofs.Label.Parts
import Zpl.Proofs.Label.Register
import Zpl.Proofs.Label.Template
import Zpl.Proofs.Outcome
import Zpl.Proofs.Print.Blame
import Zpl.Proofs.Print.Delivery
import Zpl.Proofs.Print.Device
import Zpl.Proofs.Print.Diagnosis
import Zpl.Proofs.Print.DryRun
import Zpl.Proofs.Print.Identifier
import Zpl.Proofs.Print.Job
import Zpl.Proofs.Print.Session
import Zpl.Proofs.Regeneration
import Zpl.Proofs.Spelling
import Zpl.Proofs.Text.Decoder
import Zpl.Proofs.Text.Decoding
import Zpl.Proofs.Text.Emission
import Zpl.Proofs.Text.Encoding
import Zpl.Proofs.Value.Literal
import Zpl.Proofs.Value.Numeral
import Zpl.Proofs.Value.Plain
import Zpl.Proofs.Value.Whole
import Zpl.Script.Answer
import Zpl.Script.Function
import Zpl.Script.Literal
import Zpl.Script.Run
import Zpl.Sequence.Digest
import Zpl.Sequence.Gallop
import Zpl.Sequence.Merge
import Zpl.Sequence.Parts
import Zpl.Sequence.Search
import Zpl.Sequence.Seats
import Zpl.Sequence.Sort
import Zpl.Signature
import Zpl.Store.Attribute
import Zpl.Store.Basic
import Zpl.Store.Collection
import Zpl.Store.Construction
import Zpl.Store.Edit
import Zpl.Store.Element
import Zpl.Store.Equality
import Zpl.Store.Field
import Zpl.Store.Format
import Zpl.Store.Key
import Zpl.Store.Layout
import Zpl.Store.Listing
import Zpl.Store.Making
import Zpl.Store.Method.Basic
import Zpl.Store.Method.Bytes
import Zpl.Store.Method.Call
import Zpl.Store.Method.Coding
import Zpl.Store.Method.Collection
import Zpl.Store.Method.Content
import Zpl.Store.Method.Number
import Zpl.Store.Method.Object
import Zpl.Store.Method.Sequence
import Zpl.Store.Method.Text
import Zpl.Store.Method.Translation
import Zpl.Store.Printing
import Zpl.Store.Record
import Zpl.Store.Setup
import Zpl.Store.Sorting
import Zpl.Store.Spelling
import Zpl.Store.Template
import Zpl.Text.Basic
import Zpl.Text.Blank
import Zpl.Text.Case
import Zpl.Text.Casing
import Zpl.Text.CodeClass
import Zpl.Text.Codec
import Zpl.Text.Codec.CharacterSet
import Zpl.Text.Codec.CodeTable
import Zpl.Text.Codec.EastAsian
import Zpl.Text.Codec.EastAsian.Chinese
import Zpl.Text.Codec.EastAsian.Japanese
import Zpl.Text.Codec.EastAsian.Korean
import Zpl.Text.Codec.Escape
import Zpl.Text.Codec.Framing
import Zpl.Text.Codec.Grid
import Zpl.Text.Codec.Grid.BigFive
import Zpl.Text.Codec.Grid.Chinese
import Zpl.Text.Codec.Grid.Japanese
import Zpl.Text.Codec.Grid.Korean
import Zpl.Text.Codec.HostName
import Zpl.Text.Codec.Hz
import Zpl.Text.Codec.Iso2022
import Zpl.Text.Codec.MultiByte
import Zpl.Text.Codec.Name
import Zpl.Text.Codec.Page
import Zpl.Text.Codec.Point
import Zpl.Text.Codec.Policy
import Zpl.Text.Codec.Punycode
import Zpl.Text.Codec.Reader
import Zpl.Text.Codec.Shift
import Zpl.Text.Codec.Stream
import Zpl.Text.Codec.Unicode
import Zpl.Text.Direction
import Zpl.Text.Identifier
import Zpl.Text.Letter
import Zpl.Text.Name
import Zpl.Text.Name.Asian
import Zpl.Text.Name.Form
import Zpl.Text.Name.Latin
import Zpl.Text.Name.Notation
import Zpl.Text.Name.Other
import Zpl.Text.Name.Picture
import Zpl.Text.Name.Regional
import Zpl.Text.Name.Row
import Zpl.Text.Name.Shape
import Zpl.Text.Name.Symbol
import Zpl.Text.Normal
import Zpl.Text.Normal.Class
import Zpl.Text.Normal.Composition
import Zpl.Text.Numeric
import Zpl.Text.Printable
import Zpl.Text.Quoted
import Zpl.Text.Utf8
import Zpl.Value.Basic
import Zpl.Value.Convert
import Zpl.Value.Show

import ModelProbe.Binary.Double
import ModelProbe.Binary.Format
import ModelProbe.Binary.Single
import ModelProbe.Client.Basic
import ModelProbe.Client.Config
import ModelProbe.Client.Network
import ModelProbe.Client.Transport
import ModelProbe.Codec
import ModelProbe.Decimal.Layout
import ModelProbe.Decimal.Shortest
import ModelProbe.Endpoint
import ModelProbe.Error
import ModelProbe.Explain.Engine
import ModelProbe.Explain.Error
import ModelProbe.Explain.Explainer
import ModelProbe.Explain.Frame
import ModelProbe.Explain.Params
import ModelProbe.Fairness.Config
import ModelProbe.Fairness.Dataset
import ModelProbe.Fairness.Error
import ModelProbe.Fairness.Metric
import ModelProbe.Grpc.Encoding
import ModelProbe.Grpc.Message
import ModelProbe.Grpc.Target
import ModelProbe.Grpc.Transport
import ModelProbe.Json.Number
import ModelProbe.Json.Record
import ModelProbe.Json.Token
import ModelProbe.Json.Tree
import ModelProbe.Json.Value
import ModelProbe.Matrix
import ModelProbe.Rest.Document
import ModelProbe.Rest.Transport
import ModelProbe.Table
import ModelProbe.Tensor.Basic
import ModelProbe.Tensor.Datatype
import ModelProbe.Tensor.Shape
import ModelProbe.Text.Blank
import ModelProbe.Text.CodePoints
import ModelProbe.Text.Composed
import ModelProbe.Text.Digits
import ModelProbe.Text.Listing
import ModelProbe.Text.Pieces
import ModelProbe.Text.Quoted
import ModelProbe.Text.Shapeless
import ModelProbe.Time.Calendar
import ModelProbe.Time.Fields
import ModelProbe.Time.Format
import ModelProbe.Time.Parse
import ModelProbe.Time.Scan
import ModelProbe.Time.Timestamp
import ModelProbe.Uri
import ModelProbe.Url.Address
import ModelProbe.Url.Basic
import ModelProbe.Url.Host
import ModelProbe.Url.Name.Basic
import ModelProbe.Url.Name.Direction
import ModelProbe.Url.Name.Joiner
import ModelProbe.Url.Name.Mapping
import ModelProbe.Url.Name.MappingTable
import ModelProbe.Url.Name.Punycode
import ModelProbe.Url.Path
import ModelProbe.Url.Percent
import ModelProbe.Wire.Field
import ModelProbe.Wire.Fixed
import ModelProbe.Wire.Varint
import ModelProbe.Proofs.Binary.Rounding
import ModelProbe.Proofs.Binary.Widening
import ModelProbe.Proofs.Traversal
import ModelProbe.Proofs.Matrix.Strided
import ModelProbe.Proofs.Table
import ModelProbe.Proofs.Tensor
import ModelProbe.Proofs.Codec.Narrowing
import ModelProbe.Proofs.Codec.RoundTrip
import ModelProbe.Proofs.Rest.Document
import ModelProbe.Proofs.Wire.Varint
import ModelProbe.Proofs.Wire.Fixed
import ModelProbe.Proofs.Wire.Field
import ModelProbe.Proofs.Grpc.Message
import ModelProbe.Proofs.Grpc.Encoding
import ModelProbe.Proofs.Grpc.Echo
import ModelProbe.Proofs.Grpc.Contents
import ModelProbe.Proofs.Grpc.Buffers
import ModelProbe.Proofs.Grpc.Packed
import ModelProbe.Proofs.Protocols
import ModelProbe.Proofs.Explain.Program
import ModelProbe.Proofs.Explain.Explainer
import ModelProbe.Proofs.Tensor.Counted
import ModelProbe.Proofs.Time.Calendar
import ModelProbe.Proofs.Time.Timestamp
import ModelProbe.Proofs.Time.Fields
import ModelProbe.Proofs.Time.Digits
import ModelProbe.Proofs.Time.Parse
import ModelProbe.Proofs.Time.RoundTrip
import ModelProbe.Proofs.Time.Clock
import ModelProbe.Proofs.Time.Written
import ModelProbe.Proofs.Explain.Timestamps
import ModelProbe.Proofs.Explain.TimeOfDay
import ModelProbe.Proofs.Explain.Order
import ModelProbe.Proofs.Matrix.Rows
import ModelProbe.Proofs.Table.Columns
import ModelProbe.Proofs.Table.Algebra
import ModelProbe.Proofs.Matrix.Beside
import ModelProbe.Proofs.Explain.Frame
import ModelProbe.Proofs.Explain.StableSort
import ModelProbe.Proofs.Explain.RoundTrip
import ModelProbe.Proofs.Client.Traffic
import ModelProbe.Proofs.Explain.Requests
import ModelProbe.Proofs.Codec.Join
import ModelProbe.Proofs.Explain.Params
import ModelProbe.Proofs.Explain.Fit
import ModelProbe.Proofs.Binary.Quotient
import ModelProbe.Proofs.Fairness.Config
import ModelProbe.Proofs.Table.Numbers
import ModelProbe.Proofs.Fairness.Dataset
import ModelProbe.Proofs.Fairness.Tally
import ModelProbe.Proofs.Fairness.Metric
import ModelProbe.Proofs.Binary.Range
import ModelProbe.Proofs.Codec.Lossless
import ModelProbe.Proofs.Rest.RoundTrip
import ModelProbe.Proofs.Json.Numbers
import ModelProbe.Proofs.Rest.Acceptance
import ModelProbe.Proofs.Rest.Canonical
import ModelProbe.Proofs.Codec.Mismatch
import ModelProbe.Proofs.Table.Texts
import ModelProbe.Proofs.Fairness.Refusal
import ModelProbe.Proofs.Binary.Comparison
import ModelProbe.Proofs.Fairness.Derived
import ModelProbe.Proofs.Fairness.Complement
import ModelProbe.Proofs.Table.RoundTrip
import ModelProbe.Proofs.Endpoint.BaseUrl
import ModelProbe.Proofs.Endpoint.ModelUrl
import ModelProbe.Proofs.Time.Offset
import ModelProbe.Proofs.Explain.LocalTime
import ModelProbe.Proofs.Tensor.Gate
import ModelProbe.Proofs.Explain.Window
import ModelProbe.Proofs.Json.Tokens
import ModelProbe.Proofs.Json.Trees
import ModelProbe.Proofs.Json.Values
import ModelProbe.Proofs.Json.Records
import ModelProbe.Proofs.Rest.ReadBack

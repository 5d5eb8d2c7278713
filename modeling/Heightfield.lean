import Heightfield.Choice
import Heightfield.CommandLine.Arguments
import Heightfield.CommandLine.Directory
import Heightfield.CommandLine.Execution
import Heightfield.Digest
import Heightfield.Document.Fault
import Heightfield.Document.Json
import Heightfield.Document.Node
import Heightfield.Document.Outline
import Heightfield.Document.Reading
import Heightfield.Document.Schema
import Heightfield.Document.Value
import Heightfield.Document.Yaml
import Heightfield.Document.Yaml.Core
import Heightfield.Document.Yaml.Cursor
import Heightfield.Document.Yaml.Part
import Heightfield.Document.Yaml.Text
import Heightfield.Document.Yaml.Token
import Heightfield.Document.Yaml.TokenStream
import Heightfield.FileName
import Heightfield.Graph.Basic
import Heightfield.Graph.Kind
import Heightfield.Graph.Record
import Heightfield.Heightmap.Config
import Heightfield.Heightmap.Generator
import Heightfield.Image.Format
import Heightfield.Image.Png
import Heightfield.Log
import Heightfield.Main
import Heightfield.Number.Layout
import Heightfield.Number.Reading
import Heightfield.Number.Rounding
import Heightfield.Number.Shortest
import Heightfield.Pattern.Operation
import Heightfield.Pattern.Simplex
import Heightfield.Pattern.Vec3
import Heightfield.Pattern.Wave
import Heightfield.Pipeline
import Heightfield.Preset.Basic
import Heightfield.Preset.Override
import Heightfield.Program.Basic
import Heightfield.Program.Eval
import Heightfield.Program.Identifier
import Heightfield.Program.Lowering
import Heightfield.Proofs.Graph.Disconnect
import Heightfield.Proofs.Graph.Loading
import Heightfield.Proofs.Graph.Meaning
import Heightfield.Proofs.Graph.PassedOver
import Heightfield.Proofs.Graph.Postorder
import Heightfield.Proofs.Graph.Rearrange
import Heightfield.Proofs.Graph.RepeatedId
import Heightfield.Proofs.Graph.Restrict
import Heightfield.Proofs.Graph.Shape
import Heightfield.Proofs.Graph.Source
import Heightfield.Proofs.Graph.Topic
import Heightfield.Proofs.Heightmap.FailureCount
import Heightfield.Proofs.Heightmap.Frame
import Heightfield.Proofs.Heightmap.Rejection
import Heightfield.Proofs.Heightmap.Render
import Heightfield.Proofs.Heightmap.Sampling
import Heightfield.Proofs.Heightmap.SourceKey
import Heightfield.Proofs.Heightmap.Submission
import Heightfield.Proofs.Number.Arithmetic
import Heightfield.Proofs.Number.Clamp
import Heightfield.Proofs.Number.Floor
import Heightfield.Proofs.Number.Fraction
import Heightfield.Proofs.Number.Grid
import Heightfield.Proofs.Number.Interpolation
import Heightfield.Proofs.Number.Interval
import Heightfield.Proofs.Number.Nearest
import Heightfield.Proofs.Number.Order
import Heightfield.Proofs.Number.Overflow
import Heightfield.Proofs.Number.Pole
import Heightfield.Proofs.Number.Positional
import Heightfield.Proofs.Number.Root
import Heightfield.Proofs.Number.SignedZero
import Heightfield.Proofs.Number.Significand
import Heightfield.Proofs.Pattern.Congruence
import Heightfield.Proofs.Pattern.Range
import Heightfield.Proofs.Pattern.Remainder
import Heightfield.Proofs.Pipeline.FromScratch
import Heightfield.Proofs.Pipeline.Invariant
import Heightfield.Proofs.Pipeline.Time
import Heightfield.Proofs.Preset.Override
import Heightfield.Proofs.Preset.Range
import Heightfield.Proofs.Preset.Variation
import Heightfield.Proofs.Program.BackEdge
import Heightfield.Proofs.Program.Block
import Heightfield.Proofs.Program.Follow
import Heightfield.Proofs.Program.Identifier
import Heightfield.Proofs.Program.Legible
import Heightfield.Proofs.Program.Literal
import Heightfield.Proofs.Program.Naming
import Heightfield.Proofs.Program.Outlet
import Heightfield.Proofs.Program.Prune
import Heightfield.Proofs.Program.Reader
import Heightfield.Proofs.Program.Rename
import Heightfield.Proofs.Program.Renumber
import Heightfield.Proofs.Program.Result
import Heightfield.Proofs.Program.Soundness
import Heightfield.Proofs.Program.Typing
import Heightfield.Proofs.Program.Walk
import Heightfield.Proofs.Program.WellFormed
import Heightfield.Proofs.Shader.Dialect
import Heightfield.Proofs.Shader.Hygiene
import Heightfield.Proofs.Shader.Lines
import Heightfield.Proofs.Shader.Literal
import Heightfield.Proofs.Shader.Meaning
import Heightfield.Proofs.Shader.OneLine
import Heightfield.Proofs.Shader.Reader
import Heightfield.Proofs.Shader.Vocabulary
import Heightfield.Proofs.Shader.Written
import Heightfield.Proofs.Terrace.ColorText
import Heightfield.Proofs.Terrace.Monotone
import Heightfield.Proofs.Terrace.Rebuild
import Heightfield.Proofs.Terrace.Run
import Heightfield.Report
import Heightfield.Shader.Glsl
import Heightfield.Shader.Source
import Heightfield.Shader.Token
import Heightfield.Shader.Wgsl
import Heightfield.Terrace.Color
import Heightfield.Terrace.Cube
import Heightfield.Terrace.Mesh
import Heightfield.Terrace.Ramp
import Heightfield.Text.Blank
import Heightfield.Text.Quoted
import Heightfield.Text.Unprintable

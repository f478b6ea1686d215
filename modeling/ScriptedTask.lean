import ScriptedTask.Capability.Call
import ScriptedTask.Capability.Error
import ScriptedTask.Capability.Fixture
import ScriptedTask.Capability.Inputs
import ScriptedTask.Capability.Outputs
import ScriptedTask.Capability.Query
import ScriptedTask.Capability.Session
import ScriptedTask.Capability.Token
import ScriptedTask.Capability.Variables
import ScriptedTask.Decimal.Layout
import ScriptedTask.Decimal.Reading
import ScriptedTask.Decimal.Shortest
import ScriptedTask.Failure
import ScriptedTask.Fragment
import ScriptedTask.Json.Basic
import ScriptedTask.Json.Number
import ScriptedTask.Json.Parser
import ScriptedTask.Json.Part
import ScriptedTask.Json.Printer
import ScriptedTask.Main
import ScriptedTask.Pipeline.Basic
import ScriptedTask.Pipeline.Echo
import ScriptedTask.Pipeline.Error
import ScriptedTask.Pipeline.Stage
import ScriptedTask.Proofs.Alike
import ScriptedTask.Proofs.AllOrNothing
import ScriptedTask.Proofs.Dialogue
import ScriptedTask.Proofs.FileTree
import ScriptedTask.Proofs.Fragments
import ScriptedTask.Proofs.Json.Enclosed
import ScriptedTask.Proofs.Json.Integers
import ScriptedTask.Proofs.Json.Layout
import ScriptedTask.Proofs.Json.Limits
import ScriptedTask.Proofs.Json.Openings
import ScriptedTask.Proofs.Json.Parts
import ScriptedTask.Proofs.Json.RoundTrip
import ScriptedTask.Proofs.Json.Shape
import ScriptedTask.Proofs.Json.Skipping
import ScriptedTask.Proofs.Json.Strings
import ScriptedTask.Proofs.OneStore
import ScriptedTask.Proofs.Outcomes
import ScriptedTask.Proofs.Overlay
import ScriptedTask.Proofs.Passage
import ScriptedTask.Proofs.ReadBack
import ScriptedTask.Proofs.Recording
import ScriptedTask.Proofs.Recut
import ScriptedTask.Proofs.Running
import ScriptedTask.Proofs.Substitution
import ScriptedTask.Proofs.Template.Shape
import ScriptedTask.Proofs.Template.Tag
import ScriptedTask.Proofs.Template.Writing
import ScriptedTask.Proofs.VariableDocument
import ScriptedTask.Proofs.Variables
import ScriptedTask.Script.Access
import ScriptedTask.Script.Behaviour
import ScriptedTask.Script.Builtin.Arrays
import ScriptedTask.Script.Builtin.Basic
import ScriptedTask.Script.Builtin.Data
import ScriptedTask.Script.Builtin.Numbers
import ScriptedTask.Script.Builtin.Objects
import ScriptedTask.Script.Builtin.Texts
import ScriptedTask.Script.Call
import ScriptedTask.Script.Conversion
import ScriptedTask.Script.Error
import ScriptedTask.Script.Evaluation
import ScriptedTask.Script.Expression
import ScriptedTask.Script.Grammar.Basic
import ScriptedTask.Script.Grammar.Expression
import ScriptedTask.Script.Grammar.Statement
import ScriptedTask.Script.Interchange
import ScriptedTask.Script.Interpreter
import ScriptedTask.Script.Loop
import ScriptedTask.Script.Machine
import ScriptedTask.Script.Number
import ScriptedTask.Script.Operator
import ScriptedTask.Script.Plain
import ScriptedTask.Script.PlainText
import ScriptedTask.Script.Program
import ScriptedTask.Script.Realm
import ScriptedTask.Script.Runner
import ScriptedTask.Script.Statement
import ScriptedTask.Script.Stringify
import ScriptedTask.Script.Token
import ScriptedTask.Script.Value
import ScriptedTask.SortedMap
import ScriptedTask.Storage.Access
import ScriptedTask.Storage.Document
import ScriptedTask.Storage.Path
import ScriptedTask.Storage.Tree
import ScriptedTask.Storage.Variables
import ScriptedTask.Task.Basic
import ScriptedTask.Task.Substitution
import ScriptedTask.Template.Action
import ScriptedTask.Template.Basic
import ScriptedTask.Template.Reference
import ScriptedTask.Template.Shape
import ScriptedTask.Text.Blank
import ScriptedTask.Text.Bytes
import ScriptedTask.Text.Case
import ScriptedTask.Text.Letter
import ScriptedTask.Text.Units
import ScriptedTask.Wire.Document
import ScriptedTask.Wire.Format
import ScriptedTask.Wire.Module
import ScriptedTask.Wire.Task
import ScriptedTask.Worker.Arguments
import ScriptedTask.Worker.Configuration
import ScriptedTask.Worker.Environment
import ScriptedTask.Worker.FixtureFile
import ScriptedTask.Worker.Invocation
import ScriptedTask.Worker.Preview
import ScriptedTask.Worker.Report
import ScriptedTask.Worker.TaskFile
import ScriptedTask.Yaml.Cursor
import ScriptedTask.Yaml.Node
import ScriptedTask.Yaml.Scalar
import ScriptedTask.Yaml.Token
import ScriptedTask.Yaml.Value
import ScriptedTask.Proofs.Template.LookUps
import ScriptedTask.Proofs.Preview
import ScriptedTask.Proofs.Template.References
import ScriptedTask.Proofs.Causes
import ScriptedTask.Proofs.OutputsByPhase
import ScriptedTask.Proofs.Independence
import ScriptedTask.Proofs.Lending
import ScriptedTask.Proofs.ValueTexts
import ScriptedTask.Proofs.LastWrites
import ScriptedTask.Proofs.Script.Untouched
import ScriptedTask.Proofs.TasksApart
import ScriptedTask.Proofs.Delivery
import ScriptedTask.Proofs.Template.Tokens
import ScriptedTask.Proofs.PlainTasks
import ScriptedTask.Proofs.PreviewedRuns
import ScriptedTask.Proofs.Template.Escaping
import ScriptedTask.Proofs.TokenRequests
import ScriptedTask.Proofs.Wire.Formats
import ScriptedTask.Proofs.Wire.Documents
import ScriptedTask.Proofs.Wire.Inputs
import ScriptedTask.Proofs.Wire.Stability
import ScriptedTask.Proofs.Paths
import ScriptedTask.Proofs.Places
import ScriptedTask.Proofs.FailedUpdates
import ScriptedTask.Proofs.Template.Failures
import ScriptedTask.Proofs.Strictness
import ScriptedTask.Proofs.HomePaths
import ScriptedTask.Proofs.InputKinds
import ScriptedTask.Proofs.QueryNames
import ScriptedTask.Proofs.Layers

import WorkflowDocs.Bundle
import WorkflowDocs.CommandLine.Arguments
import WorkflowDocs.CommandLine.Help
import WorkflowDocs.CommandLine.Misuse
import WorkflowDocs.CommandLine.Parameter
import WorkflowDocs.CommandLine.Reader
import WorkflowDocs.Config
import WorkflowDocs.Config.Load
import WorkflowDocs.Decimal.Binary64
import WorkflowDocs.Decimal.Notation
import WorkflowDocs.Decimal.Shortest
import WorkflowDocs.Entries
import WorkflowDocs.Environment
import WorkflowDocs.Failure
import WorkflowDocs.FileError
import WorkflowDocs.Files.Tree
import WorkflowDocs.Generation
import WorkflowDocs.Json
import WorkflowDocs.Logging.Console
import WorkflowDocs.Logging.Directive
import WorkflowDocs.Logging.Event
import WorkflowDocs.Logging.Filter
import WorkflowDocs.Logging.Logger
import WorkflowDocs.Logging.Settings
import WorkflowDocs.Main
import WorkflowDocs.Markdown
import WorkflowDocs.Number
import WorkflowDocs.Path
import WorkflowDocs.Program
import WorkflowDocs.Proofs.Files.Change
import WorkflowDocs.Proofs.Files.Content
import WorkflowDocs.Proofs.Files.Walk
import WorkflowDocs.Proofs.Generation.Again
import WorkflowDocs.Proofs.Generation.Failure
import WorkflowDocs.Proofs.Path
import WorkflowDocs.Proofs.Readme.Abreast
import WorkflowDocs.Proofs.Readme.Again
import WorkflowDocs.Proofs.Readme.Atomic
import WorkflowDocs.Proofs.Readme.Course
import WorkflowDocs.Proofs.Readme.Race
import WorkflowDocs.Proofs.Readme.Markers
import WorkflowDocs.Proofs.Readme.Region
import WorkflowDocs.Proofs.Readme.Staging
import WorkflowDocs.Proofs.Toml.Bare
import WorkflowDocs.Proofs.Trail
import WorkflowDocs.Readme
import WorkflowDocs.Readme.Update
import WorkflowDocs.RenderOptions
import WorkflowDocs.Report
import WorkflowDocs.Script
import WorkflowDocs.Section.Description
import WorkflowDocs.Section.Inputs
import WorkflowDocs.Section.Triggers
import WorkflowDocs.Text
import WorkflowDocs.Text.Alphanumeric
import WorkflowDocs.Text.Blank
import WorkflowDocs.Text.LineBreak
import WorkflowDocs.Text.Printable
import WorkflowDocs.Text.Quoted
import WorkflowDocs.Text.Similarity
import WorkflowDocs.Toml.Decode
import WorkflowDocs.Toml.Document
import WorkflowDocs.Toml.Item
import WorkflowDocs.Toml.Number
import WorkflowDocs.Toml.Parser
import WorkflowDocs.Toml.String
import WorkflowDocs.Toml.Trivia
import WorkflowDocs.Workflow.Document
import WorkflowDocs.Workflow.Reader
import WorkflowDocs.World
import WorkflowDocs.Yaml.Cursor
import WorkflowDocs.Yaml.Document
import WorkflowDocs.Yaml.Event
import WorkflowDocs.Yaml.Lexer
import WorkflowDocs.Yaml.Mark
import WorkflowDocs.Yaml.Plain
import WorkflowDocs.Yaml.Property
import WorkflowDocs.Yaml.Scalar
import WorkflowDocs.Yaml.Token
import WorkflowDocs.Yaml.Value
import WorkflowDocs.Proofs.Markdown.Table
import WorkflowDocs.Proofs.Section.Tables
import WorkflowDocs.Proofs.Entries
import WorkflowDocs.Proofs.Workflow.Sections
import WorkflowDocs.Proofs.Config.Layers
import WorkflowDocs.Proofs.Config.Loading
import WorkflowDocs.Proofs.World
import WorkflowDocs.Proofs.Abreast
import WorkflowDocs.Proofs.Program.Configuration
import WorkflowDocs.Proofs.Readme.Beside
import WorkflowDocs.Proofs.Program.Course
import WorkflowDocs.Proofs.Logging.Start
import WorkflowDocs.Proofs.Program.Contract
import WorkflowDocs.Proofs.Text.Lines
import WorkflowDocs.Proofs.Bundle.Assembly
import WorkflowDocs.Proofs.Bundle.Headings
import WorkflowDocs.Proofs.Section.Bullets
import WorkflowDocs.Proofs.Section.Events
import WorkflowDocs.Proofs.Section.LeftOut
import WorkflowDocs.Proofs.Section.Secrets
import WorkflowDocs.Proofs.Section.Tags
import WorkflowDocs.Proofs.Program.Unaffected
import WorkflowDocs.Proofs.Text.Trim
import WorkflowDocs.Proofs.Markdown.Reading
import WorkflowDocs.Proofs.Text.SourceLines
import WorkflowDocs.Proofs.Workflow.Description
import WorkflowDocs.Proofs.Workflow.Misshapen
import WorkflowDocs.Proofs.Section.Outline
import WorkflowDocs.Proofs.Text.OnePass
import WorkflowDocs.Proofs.Markdown.CodeSpan
import WorkflowDocs.Proofs.Section.Leaves
import WorkflowDocs.Proofs.Path.Directory
import WorkflowDocs.Proofs.Files.Joined
import WorkflowDocs.Proofs.Logging.Layers
import WorkflowDocs.Proofs.Text.Quoted
import WorkflowDocs.Proofs.Failure.Context

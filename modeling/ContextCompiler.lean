import ContextCompiler.Compile.Cancellation
import ContextCompiler.Main
import ContextCompiler.Proofs.Imports.Graph
import ContextCompiler.Proofs.Imports.Run
import ContextCompiler.Proofs.Imports.Termination
import ContextCompiler.Proofs.Imports.Cycles
import ContextCompiler.Proofs.Imports.Afresh
import ContextCompiler.Proofs.Registry.Documents
import ContextCompiler.Proofs.Imports.Documents
import ContextCompiler.Proofs.Url.Host
import ContextCompiler.Proofs.Except
import ContextCompiler.Proofs.Url.Authority
import ContextCompiler.Proofs.Url.Written
import ContextCompiler.Proofs.Url.Relative
import ContextCompiler.Proofs.Web.Answers
import ContextCompiler.Proofs.Storage.Follow
import ContextCompiler.Proofs.Storage.Path
import ContextCompiler.Proofs.Storage.Finite
import ContextCompiler.Proofs.Imports.Contents
import ContextCompiler.Proofs.Imports.World
import ContextCompiler.Proofs.Imports.ResolveFile
import ContextCompiler.Proofs.Imports.Reached
import ContextCompiler.Proofs.Registry.Precedence
import ContextCompiler.Proofs.Imports.Precedence
import ContextCompiler.Proofs.Imports.Faults
import ContextCompiler.Proofs.Config.Tokens
import ContextCompiler.Proofs.Imports.Environment
import ContextCompiler.Proofs.Generate.Environment
import ContextCompiler.Proofs.Imports.WellFormed
import ContextCompiler.Proofs.Prompts.Inheritance
import ContextCompiler.Proofs.Prompts.Flatten
import ContextCompiler.Proofs.Storage.Change
import ContextCompiler.Proofs.Storage.Made
import ContextCompiler.Proofs.Output.Write
import ContextCompiler.Proofs.Output.Frame
import ContextCompiler.Proofs.Generate.Write
import ContextCompiler.Proofs.Generate.Containment
import ContextCompiler.Generate.Pool
import ContextCompiler.Proofs.Generate.Pool
import ContextCompiler.Proofs.Compile.Sections
import ContextCompiler.Proofs.Generate.Report
import ContextCompiler.Generate.Course
import ContextCompiler.Proofs.Generate.Cutoff
import ContextCompiler.Proofs.Generate.Course
import ContextCompiler.Proofs.Cli.Generate
import ContextCompiler.Proofs.Sources.Roots
import ContextCompiler.Proofs.Sources.Collect
import ContextCompiler.Proofs.Registry.Spelling
import ContextCompiler.Proofs.Render.Block
import ContextCompiler.Proofs.Render.Apart
import ContextCompiler.Proofs.Glob.Language
import ContextCompiler.Glob.Pattern
import ContextCompiler.Proofs.Glob.Expression
import ContextCompiler.Proofs.Regex.Rounds
import ContextCompiler.Proofs.Regex.Ends
import ContextCompiler.Proofs.Regex.Reading
import ContextCompiler.Proofs.Glob.Compiled
import ContextCompiler.Proofs.Storage.Depth
import ContextCompiler.Proofs.Imports.Patterns
import ContextCompiler.Proofs.Markdown.Links
import ContextCompiler.Proofs.Url.OneLine
import ContextCompiler.Proofs.Markdown.Code
import ContextCompiler.Proofs.Registry.Absorb
import ContextCompiler.Proofs.Config.Substitution
import ContextCompiler.Proofs.Html.Table
import ContextCompiler.Proofs.Regex.Words
import ContextCompiler.Proofs.Modifiers.Redaction
import ContextCompiler.Proofs.Prompts.Redeclared
import ContextCompiler.Proofs.Sources.Limit
import ContextCompiler.Proofs.Render.Tree
import ContextCompiler.Proofs.Render.Outline
import ContextCompiler.Proofs.Storage.Plain
import ContextCompiler.Proofs.Sources.Overlap
import ContextCompiler.Proofs.Web.Requests
import ContextCompiler.Proofs.Sources.Pages
import ContextCompiler.Proofs.Sources.Diff
import ContextCompiler.Proofs.Markdown.Form
import ContextCompiler.Proofs.Json.Value
import ContextCompiler.Proofs.Decode.Record
import ContextCompiler.Proofs.Prompts.Reimport
import ContextCompiler.Proofs.Prompts.Arguments

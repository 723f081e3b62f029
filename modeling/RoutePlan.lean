import RoutePlan.Binary64
import RoutePlan.Binary64.Shortest
import RoutePlan.Checked
import RoutePlan.CommandLine
import RoutePlan.Document
import RoutePlan.Entries
import RoutePlan.FilePath
import RoutePlan.FileSet
import RoutePlan.Handler
import RoutePlan.Headers
import RoutePlan.Json.Number
import RoutePlan.Json.Reader
import RoutePlan.Json.Token
import RoutePlan.Mail
import RoutePlan.Main
import RoutePlan.ModuleName
import RoutePlan.NodeChecks
import RoutePlan.Numeral
import RoutePlan.ParamKind
import RoutePlan.Parameter
import RoutePlan.PathPattern
import RoutePlan.PlanError
import RoutePlan.Registry
import RoutePlan.Response
import RoutePlan.RouteSettings
import RoutePlan.Router
import RoutePlan.Script
import RoutePlan.Session
import RoutePlan.Settings.Address
import RoutePlan.Settings.Basic
import RoutePlan.Settings.Check
import RoutePlan.Settings.Load
import RoutePlan.Settings.Reader
import RoutePlan.Status
import RoutePlan.Text.Blank
import RoutePlan.Text.Lines
import RoutePlan.Text.Quoted
import RoutePlan.Text.Segments
import RoutePlan.Text.Utf8
import RoutePlan.Text.Visible
import RoutePlan.Toml.Document
import RoutePlan.Toml.Lexeme
import RoutePlan.Toml.Table
import RoutePlan.Toml.Word
import RoutePlan.Trail
import RoutePlan.Tree.Compile
import RoutePlan.Tree.Element
import RoutePlan.Tree.Imports
import RoutePlan.Tree.Inspect
import RoutePlan.Tree.Listing
import RoutePlan.Tree.Load
import RoutePlan.Tree.Method
import RoutePlan.Tree.Render
import RoutePlan.UrlPath
import RoutePlan.Value
import RoutePlan.Value.Compact
import RoutePlan.Verb
import RoutePlan.Wire.Query
import RoutePlan.Wire.Service
import RoutePlan.Wire.Target
import RoutePlan.Yaml.Document
import RoutePlan.Yaml.Node
import RoutePlan.Yaml.Plain
import RoutePlan.Yaml.Scalar
import RoutePlan.Yaml.Text
import RoutePlan.Yaml.Token
import RoutePlan.Yaml.Token.Scan
import RoutePlan.Yaml.Token.Tag
import RoutePlan.Proofs.PathPattern
import RoutePlan.Proofs.Dispatch.Log
import RoutePlan.Proofs.Session.Run
import RoutePlan.Proofs.Session.Listing
import RoutePlan.Proofs.Tree.Site
import RoutePlan.Proofs.Session.Guards
import RoutePlan.Proofs.Session.FirstMatch
import RoutePlan.Proofs.Dispatch.Controller
import RoutePlan.Proofs.Session.SingleController
import RoutePlan.Proofs.Tree.Reference
import RoutePlan.Proofs.Session.Load
import RoutePlan.Proofs.Checked
import RoutePlan.Proofs.Parameter
import RoutePlan.Proofs.Session.History
import RoutePlan.Proofs.DistinctKeys
import RoutePlan.Proofs.Tree.Compile
import RoutePlan.Proofs.Tree.Declaration
import RoutePlan.Proofs.Session.Inheritance
import RoutePlan.Proofs.Captures
import RoutePlan.Proofs.Dispatch.Params
import RoutePlan.Proofs.Session.Origin
import RoutePlan.Proofs.Validation
import RoutePlan.Proofs.Session.PathParameters
import RoutePlan.Proofs.Dispatch.Arguments
import RoutePlan.Proofs.Dispatch.DeclaredInput
import RoutePlan.Proofs.Session.Arguments
import RoutePlan.Proofs.FileSet
import RoutePlan.Proofs.Session.Compile
import RoutePlan.Proofs.Session.Imports
import RoutePlan.Proofs.Session.Inline
import RoutePlan.Proofs.Dispatch.ControllerProgram
import RoutePlan.Proofs.Dispatch.AllOrNothing
import RoutePlan.Proofs.Tree.WellFormed
import RoutePlan.Proofs.Session.WellFormed
import RoutePlan.Proofs.Session.UnknownKeys
import RoutePlan.Proofs.Session.Spelling
import RoutePlan.Proofs.Binary64
import RoutePlan.Proofs.Numeral
import RoutePlan.Proofs.NumeralDouble
import RoutePlan.Proofs.NumberCast
import RoutePlan.Proofs.Mail
import RoutePlan.Proofs.MailCast
import RoutePlan.Proofs.PathMatching
import RoutePlan.Proofs.FilePath
import RoutePlan.Proofs.Registry
import RoutePlan.Proofs.Revalidation
import RoutePlan.Proofs.Insertion
import RoutePlan.Proofs.JoinedPattern
import RoutePlan.Proofs.Tree.Mounting
import RoutePlan.Proofs.Dispatch.Visits
import RoutePlan.Proofs.Dispatch.Answer
import RoutePlan.Proofs.WrittenJson
import RoutePlan.Proofs.WireRequest
import RoutePlan.Proofs.Session.MethodVerbs
import RoutePlan.Proofs.Tree.Barren
import RoutePlan.Proofs.Session.EmptyGroups
import RoutePlan.Proofs.Tree.Siblings
import RoutePlan.Proofs.ValidSettings
import RoutePlan.Proofs.Lines
import RoutePlan.Proofs.Tree.Outline
import RoutePlan.Proofs.Session.Rendering

import Tablewright.Address
import Tablewright.Blueprint
import Tablewright.Column
import Tablewright.CommandLine.Arguments
import Tablewright.CommandLine.Options
import Tablewright.Configuration
import Tablewright.Connection
import Tablewright.Connection.Defaults
import Tablewright.Connection.Target
import Tablewright.Decimal.Binary64
import Tablewright.Decimal.Reading
import Tablewright.Decimal.Shortest
import Tablewright.Document.Error
import Tablewright.Document.Record
import Tablewright.Document.Tree
import Tablewright.Document.Value
import Tablewright.Entries
import Tablewright.Failure
import Tablewright.Json.Numeral
import Tablewright.Json.Printer
import Tablewright.Json.Quoted
import Tablewright.Json.Reader
import Tablewright.Json.Token
import Tablewright.Literal
import Tablewright.Main
import Tablewright.Migration
import Tablewright.Model
import Tablewright.Model.Blueprint
import Tablewright.Model.Format
import Tablewright.Model.Loading
import Tablewright.Node
import Tablewright.Node.Check
import Tablewright.Node.Reading
import Tablewright.Node.SqlType
import Tablewright.Number
import Tablewright.Policy
import Tablewright.Policy.Columns
import Tablewright.Proofs.Blueprint
import Tablewright.Proofs.CheckClauses
import Tablewright.Proofs.Checked
import Tablewright.Proofs.Column
import Tablewright.Proofs.ColumnNames
import Tablewright.Proofs.ColumnTypes
import Tablewright.Proofs.Comments
import Tablewright.Proofs.Compile
import Tablewright.Proofs.Connection
import Tablewright.Proofs.Connection.Escaped
import Tablewright.Proofs.Connection.Failures
import Tablewright.Proofs.Connection.Layers
import Tablewright.Proofs.Connection.Query
import Tablewright.Proofs.Document.Acceptance
import Tablewright.Proofs.Document.Fields
import Tablewright.Proofs.Document.Record
import Tablewright.Proofs.Document.Value
import Tablewright.Proofs.Drawings
import Tablewright.Proofs.Drawings.Checks
import Tablewright.Proofs.Drawings.Schema
import Tablewright.Proofs.Entries
import Tablewright.Proofs.EnumMembers
import Tablewright.Proofs.EnumNames
import Tablewright.Proofs.EnumTypes
import Tablewright.Proofs.Json.Numeral
import Tablewright.Proofs.Json.Quoted
import Tablewright.Proofs.Json.Reader
import Tablewright.Proofs.Json.Tree
import Tablewright.Proofs.Model.Balance
import Tablewright.Proofs.Model.Reading
import Tablewright.Proofs.Node.Applicability
import Tablewright.Proofs.Node.Conditions
import Tablewright.Proofs.Node.Contents
import Tablewright.Proofs.Node.Kind
import Tablewright.Proofs.Node.Limits
import Tablewright.Proofs.Node.Reading
import Tablewright.Proofs.Node.SqlType
import Tablewright.Proofs.Node.TypeTable
import Tablewright.Proofs.Number
import Tablewright.Proofs.Policy
import Tablewright.Proofs.Policy.Columns
import Tablewright.Proofs.Policy.Reading
import Tablewright.Proofs.Result
import Tablewright.Proofs.Run
import Tablewright.Proofs.Run.ExitCode
import Tablewright.Proofs.Run.Stages
import Tablewright.Proofs.Script
import Tablewright.Proofs.Script.Balance
import Tablewright.Proofs.Script.Columns
import Tablewright.Proofs.Script.Spacing
import Tablewright.Proofs.Script.Stops
import Tablewright.Proofs.SharedLog
import Tablewright.Proofs.Sql.Comparison
import Tablewright.Proofs.Sql.Quoted
import Tablewright.Proofs.Sql.Statement
import Tablewright.Proofs.Sql.ValueList
import Tablewright.Proofs.Statements
import Tablewright.Proofs.Tables
import Tablewright.Proofs.Text.Blank
import Tablewright.Proofs.Text.Digits
import Tablewright.Proofs.Text.UpperCase
import Tablewright.Proofs.Text.Utf8
import Tablewright.Proofs.Text.Words
import Tablewright.Proofs.TypeReferences
import Tablewright.Proofs.Url
import Tablewright.Proofs.Url.Address
import Tablewright.Proofs.Url.Host
import Tablewright.Proofs.Url.Login
import Tablewright.Proofs.Url.Path
import Tablewright.Proofs.Url.Percent
import Tablewright.Proofs.Url.Query
import Tablewright.Proofs.Url.Unreserved
import Tablewright.Proofs.Validation
import Tablewright.Proofs.Verdicts
import Tablewright.Proofs.Warnings
import Tablewright.Run
import Tablewright.Run.Scene
import Tablewright.Script
import Tablewright.Settings
import Tablewright.Sql.Quoted
import Tablewright.Sql.Statement
import Tablewright.Text.Blank
import Tablewright.Text.Digits
import Tablewright.Text.Hidden
import Tablewright.Text.Join
import Tablewright.Text.Letter
import Tablewright.Text.Numeral
import Tablewright.Text.Ranges
import Tablewright.Text.Shown
import Tablewright.Text.UpperCase
import Tablewright.Text.Utf8
import Tablewright.Toml.Number
import Tablewright.Toml.Reader
import Tablewright.Toml.Table
import Tablewright.Toml.Text
import Tablewright.Url
import Tablewright.Url.Address
import Tablewright.Url.Domain
import Tablewright.Url.Host
import Tablewright.Url.Path
import Tablewright.Url.Percent
import Tablewright.Validation
import Tablewright.Warning
import Tablewright.Yaml.Anchor
import Tablewright.Yaml.Block
import Tablewright.Yaml.Folding
import Tablewright.Yaml.Node
import Tablewright.Yaml.Plain
import Tablewright.Yaml.Property
import Tablewright.Yaml.Quoted
import Tablewright.Yaml.Reader
import Tablewright.Yaml.Resolution
import Tablewright.Yaml.Spot
import Tablewright.Yaml.Token

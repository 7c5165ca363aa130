import TreeSieve.Config
import TreeSieve.Config.Document
import TreeSieve.Config.File
import TreeSieve.Decision
import TreeSieve.Disk
import TreeSieve.Filter
import TreeSieve.Glob
import TreeSieve.Ignore
import TreeSieve.Item
import TreeSieve.Note
import TreeSieve.Number.Binary64
import TreeSieve.Number.Integer
import TreeSieve.Number.Shortest
import TreeSieve.Path
import TreeSieve.Query.Basic
import TreeSieve.Query.Parser
import TreeSieve.Query.Piece
import TreeSieve.Regex.Cache
import TreeSieve.Regex.CharTest
import TreeSieve.Regex.Matcher
import TreeSieve.Regex.Problem
import TreeSieve.Regex.Program
import TreeSieve.Regex.Reader
import TreeSieve.Regex.Syntax
import TreeSieve.Search
import TreeSieve.Session
import TreeSieve.Settings
import TreeSieve.Snapshot.Build
import TreeSieve.Snapshot.Options
import TreeSieve.Snapshot.Tree
import TreeSieve.Subsequence
import TreeSieve.Text.Basic
import TreeSieve.Text.Blank
import TreeSieve.Text.Casing
import TreeSieve.Text.Identifier
import TreeSieve.Text.Letter
import TreeSieve.Text.Name
import TreeSieve.Text.NameTable
import TreeSieve.Text.NameTable.Ancient
import TreeSieve.Text.NameTable.Asia
import TreeSieve.Text.NameTable.East
import TreeSieve.Text.NameTable.Picture
import TreeSieve.Text.NameTable.Sign
import TreeSieve.Text.NameTable.South
import TreeSieve.Text.NameTable.Symbol
import TreeSieve.Text.NameTable.West
import TreeSieve.Text.Quoted
import TreeSieve.Text.Upper
import TreeSieve.Text.Utf8
import TreeSieve.Value.Basic
import TreeSieve.Value.Coerce
import TreeSieve.Value.Fault
import TreeSieve.Value.Key
import TreeSieve.Yaml.Failure
import TreeSieve.Yaml.Grammar
import TreeSieve.Yaml.Lexeme
import TreeSieve.Yaml.Lexer
import TreeSieve.Yaml.Meaning
import TreeSieve.Yaml.Node
import TreeSieve.Yaml.Place
import TreeSieve.Yaml.Scalar
import TreeSieve.Yaml.Style
import TreeSieve.Yaml.Token
import TreeSieve.Proofs.Ancestors
import TreeSieve.Proofs.Cache
import TreeSieve.Proofs.Classification
import TreeSieve.Proofs.Visibility
import TreeSieve.Proofs.Criteria
import TreeSieve.Proofs.Monotony
import TreeSieve.Proofs.Regex.Matching
import TreeSieve.Proofs.Parts
import TreeSieve.Proofs.Regex.Reading
import TreeSieve.Proofs.Glob.Fitting
import TreeSieve.Proofs.Glob.Reading
import TreeSieve.Proofs.Glob.Matching
import TreeSieve.Proofs.Ignore
import TreeSieve.Proofs.Options
import TreeSieve.Proofs.Text
import TreeSieve.Proofs.Query.Rendering
import TreeSieve.Proofs.Query.Reading
import TreeSieve.Proofs.Cache.Runs
import TreeSieve.Proofs.Passes
import TreeSieve.Proofs.Disk
import TreeSieve.Proofs.Snapshot.Steps
import TreeSieve.Proofs.Snapshot.Listing
import TreeSieve.Proofs.Snapshot.Contents
import TreeSieve.Proofs.Disk.Operations
import TreeSieve.Proofs.Snapshot.Limit
import TreeSieve.Proofs.Config.Sections
import TreeSieve.Proofs.Config.Loading
import TreeSieve.Proofs.Config.Discovery
import TreeSieve.Proofs.Numerals
import TreeSieve.Proofs.Yaml.Place
import TreeSieve.Proofs.Yaml.Writing
import TreeSieve.Proofs.Yaml.Quoted
import TreeSieve.Proofs.Yaml.Plain
import TreeSieve.Proofs.Yaml.Lines
import TreeSieve.Proofs.Yaml.Entries
import TreeSieve.Proofs.Yaml.Nodes
import TreeSieve.Proofs.Yaml.Layout
import TreeSieve.Proofs.Config.Document
import TreeSieve.Proofs.Config.Reading
import TreeSieve.Proofs.Disk.Files
import TreeSieve.Proofs.Config.Saving
import TreeSieve.Proofs.Changes
import TreeSieve.Proofs.Path
import TreeSieve.Proofs.Snapshot.Naming
import TreeSieve.Proofs.Note
import TreeSieve.Proofs.Tags
import TreeSieve.Proofs.Snapshot.Notes
import TreeSieve.Proofs.Subsequence
import TreeSieve.Proofs.Highlights
import TreeSieve.Proofs.Containment
import TreeSieve.Proofs.Folders
import TreeSieve.Proofs.Query.Division
import TreeSieve.Proofs.Casing
import TreeSieve.Proofs.FileGates
import TreeSieve.Proofs.Stems
import TreeSieve.Proofs.Query.Joining
import TreeSieve.Proofs.Query.Values
import TreeSieve.Proofs.Glob.Sets
import TreeSieve.Proofs.Glob.Steps
import TreeSieve.Proofs.Glob.Crossing
import TreeSieve.Proofs.Glob.Below
import TreeSieve.Proofs.Below
import TreeSieve.Proofs.Config.NormalForm
import TreeSieve.Proofs.Fences
import TreeSieve.Proofs.Snapshot.Counts
import TreeSieve.Proofs.Snapshot.Runs
import TreeSieve.Proofs.Marks
import TreeSieve.Proofs.Snapshot.Tagged
import TreeSieve.Proofs.Walks
import TreeSieve.Proofs.Item.Linking
import TreeSieve.Proofs.Item.Record
import TreeSieve.Proofs.Item.Rejection

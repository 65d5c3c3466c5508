import Ownership.Account
import Ownership.Approval.Engine
import Ownership.Approval.Owned
import Ownership.Approval.Status
import Ownership.BlockFormat.Reader
import Ownership.BlockFormat.Token
import Ownership.BlockFormat.Writer
import Ownership.Change
import Ownership.CommandLine.Arguments
import Ownership.CommandLine.Command
import Ownership.CommandLine.Run
import Ownership.Console.Markup
import Ownership.Console.Pictograph
import Ownership.Console.Screen
import Ownership.Document.Check
import Ownership.Document.File
import Ownership.Document.Records
import Ownership.Failure
import Ownership.Format
import Ownership.Format.Inexpressible
import Ownership.Format.Registry
import Ownership.Glob
import Ownership.Hierarchy.Imports
import Ownership.Hierarchy.Levels
import Ownership.Incident
import Ownership.Json.Basic
import Ownership.Json.Reader
import Ownership.LineFormat.Line
import Ownership.LineFormat.Reader
import Ownership.LineFormat.Writer
import Ownership.Loader
import Ownership.LogLevel
import Ownership.Main
import Ownership.Notice
import Ownership.Number.Double
import Ownership.Number.Power
import Ownership.Number.Rounding
import Ownership.OwnerConfig
import Ownership.Path
import Ownership.Path.Ancestors
import Ownership.Project
import Ownership.Proofs.Approval.Context
import Ownership.Proofs.Approval.Evaluation
import Ownership.Proofs.Approval.MoreVotes
import Ownership.Proofs.Approval.Submittable
import Ownership.Proofs.Approval.Survey
import Ownership.Proofs.Approval.Verdict
import Ownership.Proofs.BlockFormat.RoundTrip
import Ownership.Proofs.BlockFormat.Spelling
import Ownership.Proofs.Climb
import Ownership.Proofs.Imports.Expansion
import Ownership.Proofs.Imports.Trails
import Ownership.Proofs.LineFormat.Content
import Ownership.Proofs.Memory
import Ownership.Proofs.Recall
import Ownership.Proofs.Tables
import Ownership.Proofs.Text.Pieces
import Ownership.Proofs.Walks
import Ownership.Random.Shuffle
import Ownership.Random.Twister
import Ownership.Resolver
import Ownership.Session
import Ownership.Site
import Ownership.Suggestion.Rank
import Ownership.Suggestion.Score
import Ownership.Suggestion.Suggester
import Ownership.Table
import Ownership.Text.Alphanumeric
import Ownership.Text.Blank
import Ownership.Text.DecimalDigit
import Ownership.Text.Fingerprint
import Ownership.Text.Hex
import Ownership.Text.Lines
import Ownership.Text.LowerCase
import Ownership.Text.Order
import Ownership.Text.Printable
import Ownership.Text.Quoted
import Ownership.Text.Ranges
import Ownership.Text.Slice
import Ownership.Text.Split
import Ownership.Text.Utf8
import Ownership.Tree
import Ownership.Tree.Checkout
import Ownership.Tree.GitRepository
import Ownership.Tree.History
import Ownership.Tree.HostFiles
import Ownership.Proofs.LineFormat.Statements
import Ownership.Proofs.LineFormat.Gathering
import Ownership.Proofs.LineFormat.Rereading
import Ownership.Proofs.LineFormat.Imports
import Ownership.Proofs.LineFormat.RoundTrip
import Ownership.Proofs.BlockFormat.Contents
import Ownership.Proofs.Conversion
import Ownership.Proofs.Imports.Targets
import Ownership.Proofs.Faithful
import Ownership.Proofs.Hierarchy.Agreement
import Ownership.Proofs.Hierarchy.Sound
import Ownership.Proofs.Hierarchy.Levels
import Ownership.Proofs.Hierarchy.Stability
import Ownership.Proofs.Suggestion.Candidates
import Ownership.Proofs.Suggestion.Soundness
import Ownership.Proofs.Approval.Owned
import Ownership.Proofs.Tree.Attempts
import Ownership.Proofs.Tree.Commits
import Ownership.Proofs.Loading.Keys
import Ownership.Proofs.Loading.Transparency
import Ownership.Proofs.Directory
import Ownership.Proofs.Registry
import Ownership.Proofs.Hierarchy.Bootstrap
import Ownership.Proofs.Lockstep
import Ownership.Proofs.Suggestion.Hidden
import Ownership.Proofs.Glob.Cuts
import Ownership.Proofs.Glob.Elements
import Ownership.Proofs.Glob.Widening
import Ownership.Proofs.BlockFormat.Scanning
import Ownership.Proofs.BlockFormat.Grammar
import Ownership.Proofs.LineFormat.Forms
import Ownership.Proofs.LineFormat.Sayings
import Ownership.Proofs.LineFormat.Merging
import Ownership.Proofs.LineFormat.Union
import Ownership.Proofs.Glob.Slashes
import Ownership.Proofs.Number.Order
import Ownership.Proofs.Suggestion.Ranking
import Ownership.Proofs.Suggestion.Gathering
import Ownership.Proofs.Suggestion.Wildcards
import Ownership.Proofs.Suggestion.Listings
import Ownership.Proofs.Approval.Voters
import Ownership.Proofs.Steps
import Ownership.Proofs.Approval.Pages
import Ownership.Proofs.Notice.Message
import Ownership.Proofs.Notice.Posting
import Ownership.Proofs.Text.Encoding
import Ownership.Proofs.Tree.Differences
import Ownership.Proofs.Tree.GitNames
import Ownership.Proofs.Text.LongerLines
import Ownership.Proofs.LineFormat.Comments
import Ownership.Proofs.BlockFormat.Sharpness
import Ownership.Proofs.BlockFormat.Blame
import Ownership.Proofs.BlockFormat.ErrorLines
import Ownership.Proofs.Causes
import Ownership.Proofs.Failing
import Ownership.Proofs.Suggestion.Revisions
import Ownership.Proofs.Path.Below
import Ownership.Proofs.Path.Settling
import Ownership.Proofs.Loading.Encounters
import Ownership.Proofs.Hierarchy.Diagnostics

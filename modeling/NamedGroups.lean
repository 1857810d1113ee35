import NamedGroups.CommandLine.Config
import NamedGroups.CommandLine.Host
import NamedGroups.CommandLine.Invocation
import NamedGroups.CommandLine.Run
import NamedGroups.Engine.Backtracking
import NamedGroups.Engine.BuiltIn
import NamedGroups.Engine.CharSet
import NamedGroups.Engine.ClassSyntax
import NamedGroups.Engine.Cursor
import NamedGroups.Engine.Escape
import NamedGroups.Engine.Expr
import NamedGroups.Engine.Machine
import NamedGroups.Engine.Parser
import NamedGroups.Engine.Program
import NamedGroups.Engine.Regex
import NamedGroups.Engine.Shape
import NamedGroups.Engine.Simulation
import NamedGroups.Flags
import NamedGroups.Fragment
import NamedGroups.GroupIndex
import NamedGroups.GroupIndex.Json
import NamedGroups.GroupSyntax
import NamedGroups.Inspection
import NamedGroups.Json
import NamedGroups.Log
import NamedGroups.Main
import NamedGroups.Match
import NamedGroups.NamedRegex.Basic
import NamedGroups.NamedRegex.Compile
import NamedGroups.NamedRegex.Replace
import NamedGroups.NamedRegex.Search
import NamedGroups.NamedRegex.Split
import NamedGroups.OrderedMap
import NamedGroups.Pattern
import NamedGroups.Positional
import NamedGroups.Proofs.CommandLine.Answers
import NamedGroups.Proofs.CommandLine.ExitCodes
import NamedGroups.Proofs.CommandLine.PrintedGroups
import NamedGroups.Proofs.Engine.Agreement
import NamedGroups.Proofs.Engine.Bare
import NamedGroups.Proofs.Engine.Captures
import NamedGroups.Proofs.Engine.DroppedGroup
import NamedGroups.Proofs.Engine.Erasure
import NamedGroups.Proofs.Engine.Inert
import NamedGroups.Proofs.Engine.Openings
import NamedGroups.Proofs.Engine.Parsing
import NamedGroups.Proofs.Engine.Settling
import NamedGroups.Proofs.Engine.Slots
import NamedGroups.Proofs.Engine.Steps
import NamedGroups.Proofs.Flags.LetterSets
import NamedGroups.Proofs.Fragment.Balance
import NamedGroups.Proofs.Fragment.Decomposition
import NamedGroups.Proofs.Fragment.Deletions
import NamedGroups.Proofs.Fragment.EmptyGroups
import NamedGroups.Proofs.Fragment.Nesting
import NamedGroups.Proofs.Fragment.OpenedTexts
import NamedGroups.Proofs.Fragment.Uniqueness
import NamedGroups.Proofs.Fragment.Walks
import NamedGroups.Proofs.GroupIndex.KeyTexts
import NamedGroups.Proofs.GroupSyntax
import NamedGroups.Proofs.Json.Objects
import NamedGroups.Proofs.Json.Reading
import NamedGroups.Proofs.NamedRegex.AnchoredSplitting
import NamedGroups.Proofs.NamedRegex.BoundedSearches
import NamedGroups.Proofs.NamedRegex.Compilation
import NamedGroups.Proofs.NamedRegex.Display
import NamedGroups.Proofs.NamedRegex.FirstMatches
import NamedGroups.Proofs.NamedRegex.FlagLetters
import NamedGroups.Proofs.NamedRegex.GroupMarks
import NamedGroups.Proofs.NamedRegex.JoinedPieces
import NamedGroups.Proofs.NamedRegex.NamedCaptures
import NamedGroups.Proofs.NamedRegex.PastedGroups
import NamedGroups.Proofs.NamedRegex.Separators
import NamedGroups.Proofs.NamedRegex.SlotCount
import NamedGroups.Proofs.NamedRegex.SplicedMatches
import NamedGroups.Proofs.NamedRegex.SuccessiveMatches
import NamedGroups.Proofs.NamedRegex.Transparency
import NamedGroups.Proofs.NamedRegex.UnknownReference
import NamedGroups.Proofs.Pattern.Indicators
import NamedGroups.Proofs.Template.BracedNumbers
import NamedGroups.Proofs.Template.Escaping
import NamedGroups.Proofs.Template.Grammar
import NamedGroups.Proofs.Template.GroupNames
import NamedGroups.Proofs.Template.Placeholders
import NamedGroups.Proofs.Template.Reading
import NamedGroups.Proofs.Template.Seams
import NamedGroups.Proofs.Text.Boundaries
import NamedGroups.Proofs.Text.Escapes
import NamedGroups.Proofs.Tracker.Balance
import NamedGroups.Proofs.Tracker.Concatenation
import NamedGroups.Proofs.Tracker.ErasedNames
import NamedGroups.Proofs.Tracker.Following
import NamedGroups.Proofs.Tracker.Growth
import NamedGroups.Proofs.Tracker.HeaderErasure
import NamedGroups.Proofs.Tracker.Inlining
import NamedGroups.Proofs.Tracker.NamedBodies
import NamedGroups.Proofs.Tracker.Numbering
import NamedGroups.Proofs.Tracker.Pasting
import NamedGroups.Proofs.Tracker.Positions
import NamedGroups.Proofs.Tracker.Recording
import NamedGroups.Proofs.Tracker.Renaming
import NamedGroups.Proofs.Tracker.Steps
import NamedGroups.Proofs.Tracker.WholeIdentifiers
import NamedGroups.RegexEngine
import NamedGroups.Template
import NamedGroups.Text
import NamedGroups.Text.Decimal
import NamedGroups.Text.Quoted
import NamedGroups.Unicode.Alphabetic
import NamedGroups.Unicode.CaseFolding
import NamedGroups.Unicode.Classes
import NamedGroups.Unicode.Mark
import NamedGroups.Unicode.Number
import NamedGroups.Unicode.Ranges
import NamedGroups.Unicode.Spacing
import NamedGroups.Unicode.Unprintable

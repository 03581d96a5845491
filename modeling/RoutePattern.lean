import RoutePattern.Text
import RoutePattern.Text.Quoted
import RoutePattern.Token
import RoutePattern.Token.Fragment
import RoutePattern.Token.Scan
import RoutePattern.Error
import RoutePattern.Tree
import RoutePattern.Tree.Spine
import RoutePattern.Tree.Visit
import RoutePattern.Options
import RoutePattern.Options.Record
import RoutePattern.Regex.Escape
import RoutePattern.Compiled
import RoutePattern.Unicode.Run
import RoutePattern.Unicode.Letter
import RoutePattern.Unicode.Mark
import RoutePattern.Unicode.Number
import RoutePattern.Unicode.Punctuation
import RoutePattern.Unicode.Symbol
import RoutePattern.Unicode.Separator
import RoutePattern.Unicode.Alphabetic
import RoutePattern.Unicode.Recent
import RoutePattern.Unicode.CaseTrait
import RoutePattern.Unicode.Emoji
import RoutePattern.Unicode.Trait
import RoutePattern.Unicode.Script
import RoutePattern.Unicode.SharedScript
import RoutePattern.Unicode.Age
import RoutePattern.Unicode.Folding
import RoutePattern.Unicode.Category
import RoutePattern.Regex.CharSet
import RoutePattern.Regex.Derived
import RoutePattern.Regex.Boundary
import RoutePattern.Regex.Property
import RoutePattern.Regex.Error
import RoutePattern.Regex.Flags
import RoutePattern.Regex.Expr
import RoutePattern.Regex.Compose
import RoutePattern.Regex.Utf8
import RoutePattern.Regex.Automaton.Tally
import RoutePattern.Regex.Automaton.Chars
import RoutePattern.Regex.Automaton.Words
import RoutePattern.Regex.Automaton
import RoutePattern.Regex.Layout
import RoutePattern.Regex.Atom
import RoutePattern.Regex.Bracket
import RoutePattern.Regex.Lexeme
import RoutePattern.Regex.Reader
import RoutePattern.Regex.Search
import RoutePattern.Options.Check
import RoutePattern.Params
import RoutePattern.Route
import RoutePattern.Proofs.Tree.Shape
import RoutePattern.Proofs.Grammar
import RoutePattern.Proofs.Tree.Growth
import RoutePattern.Proofs.Tree.Rendering
import RoutePattern.Proofs.Tree.Written
import RoutePattern.Proofs.Tree.Spelling
import RoutePattern.Proofs.Tree.Table
import RoutePattern.Proofs.Tree.Arena
import RoutePattern.Proofs.Token.Nesting
import RoutePattern.Proofs.Token.Scanned
import RoutePattern.Proofs.Token.Joined
import RoutePattern.Proofs.Grammar.Balanced
import RoutePattern.Proofs.Compiled.Sealed
import RoutePattern.Proofs.Compiled.Groups
import RoutePattern.Proofs.Compiled.OnePass
import RoutePattern.Proofs.Tree.Lineage
import RoutePattern.Proofs.Tree.Focus
import RoutePattern.Proofs.Compiled.Joined
import RoutePattern.Proofs.Regex.Traces
import RoutePattern.Proofs.Regex.Matches
import RoutePattern.Proofs.Regex.Places
import RoutePattern.Proofs.Regex.Search
import RoutePattern.Proofs.Regex.Composition
import RoutePattern.Proofs.Regex.Regions
import RoutePattern.Proofs.Regex.Reading
import RoutePattern.Proofs.Regex.Bars
import RoutePattern.Proofs.Regex.Lookahead.Escape
import RoutePattern.Proofs.Regex.Lookahead.Bracket
import RoutePattern.Proofs.Regex.Lookahead.Lexeme
import RoutePattern.Proofs.Regex.Ascii
import RoutePattern.Proofs.Regex.Lookahead.Accepted
import RoutePattern.Proofs.Regex.Flat
import RoutePattern.Proofs.Regex.Roles
import RoutePattern.Proofs.Regex.Opens
import RoutePattern.Proofs.Regex.Mirrored
import RoutePattern.Proofs.Tree.Language
import RoutePattern.Proofs.Compiled.Denotation
import RoutePattern.Proofs.Compiled.GroupCount
import RoutePattern.Proofs.Compiled.Repeated
import RoutePattern.Proofs.Compiled.Enclosed
import RoutePattern.Proofs.Regex.Denotes
import RoutePattern.Proofs.Compiled.Captured
import RoutePattern.Proofs.Route.Meaning
import RoutePattern.Proofs.Route.Values
import RoutePattern.Proofs.Route.Merged
import RoutePattern.Proofs.Route.GroupNumbers
import RoutePattern.Proofs.Route.Absent
import RoutePattern.Proofs.Route.Anchored
import RoutePattern.Proofs.Route.Usable
import RoutePattern.Proofs.Token.Legible
import RoutePattern.Proofs.Tree.Relocated
import RoutePattern.Proofs.Compiled.Alike
import RoutePattern.Proofs.Compiled.Blanks
import RoutePattern.Proofs.Token.Quoting
import RoutePattern.Proofs.Compiled.Canonical
import RoutePattern.Proofs.Compiled.Verbatim
import RoutePattern.Proofs.Token.Placed
import RoutePattern.Proofs.Token.Divided
import RoutePattern.Proofs.Token.Tiling
import RoutePattern.Proofs.Token.FragmentGrammar
import RoutePattern.Proofs.Token.Counted
import RoutePattern.Proofs.Tree.Marks
import RoutePattern.Proofs.Tree.Spans
import RoutePattern.Proofs.Tree.Nested
import RoutePattern.Proofs.Tree.Sliced
import RoutePattern.Proofs.Tree.Branches
import RoutePattern.Proofs.Tree.Frame
import RoutePattern.Proofs.Tree.Visits
import RoutePattern.Proofs.Regex.Kept

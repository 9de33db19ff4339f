import PhraseRules.Agreement.Filter
import PhraseRules.Agreement.Session
import PhraseRules.Agreement.Table
import PhraseRules.CaseConversion
import PhraseRules.Checker
import PhraseRules.Disambiguation
import PhraseRules.Language
import PhraseRules.Lexicon.Basic
import PhraseRules.Lexicon.File
import PhraseRules.Matcher.Alternatives
import PhraseRules.Matcher.Basic
import PhraseRules.PatternError
import PhraseRules.Position
import PhraseRules.Proofs.Agreement.Lookahead
import PhraseRules.Proofs.Agreement.Membership
import PhraseRules.Proofs.Agreement.Run
import PhraseRules.Proofs.Agreement.Selection
import PhraseRules.Proofs.Agreement.Table
import PhraseRules.Proofs.Checker.Coordinates
import PhraseRules.Proofs.Checker.Correction
import PhraseRules.Proofs.Disambiguation
import PhraseRules.Proofs.Disambiguation.Failure
import PhraseRules.Proofs.Disambiguation.Protection
import PhraseRules.Proofs.Distinct
import PhraseRules.Proofs.Lexicon.Index
import PhraseRules.Proofs.Lexicon.Loading
import PhraseRules.Proofs.Lexicon.Tagging
import PhraseRules.Proofs.Matcher.Anchored
import PhraseRules.Proofs.Matcher.Enumerated
import PhraseRules.Proofs.Matcher.Filled
import PhraseRules.Proofs.Matcher.Listing
import PhraseRules.Proofs.Matcher.Literal
import PhraseRules.Proofs.Matcher.Whole
import PhraseRules.Proofs.Outcome
import PhraseRules.Proofs.Position
import PhraseRules.Proofs.Regex.Enclosed.Class
import PhraseRules.Proofs.Regex.Enclosed.Group
import PhraseRules.Proofs.Regex.Enclosed.Part
import PhraseRules.Proofs.Regex.Reach
import PhraseRules.Proofs.Regex.Reading
import PhraseRules.Proofs.Regex.Replacement
import PhraseRules.Proofs.Regex.Rests
import PhraseRules.Proofs.Regex.Words
import PhraseRules.Proofs.Rendering
import PhraseRules.Proofs.Rule.Compiled
import PhraseRules.Proofs.Rule.Exemption
import PhraseRules.Proofs.Rule.Failure
import PhraseRules.Proofs.Rule.Findings
import PhraseRules.Proofs.Rule.Following
import PhraseRules.Proofs.Rule.Marked
import PhraseRules.Proofs.Rule.Prefilter
import PhraseRules.Proofs.Rule.Reference
import PhraseRules.Proofs.Rule.Report
import PhraseRules.Proofs.Rule.Spacing
import PhraseRules.Proofs.Rule.Span
import PhraseRules.Proofs.Rule.Suggestions
import PhraseRules.Proofs.Rule.Template
import PhraseRules.Proofs.Rulebook
import PhraseRules.Proofs.Search.Answer
import PhraseRules.Proofs.Search.Bindings
import PhraseRules.Proofs.Search.Choice
import PhraseRules.Proofs.Search.Concord
import PhraseRules.Proofs.Search.Exceptions
import PhraseRules.Proofs.Search.Extent
import PhraseRules.Proofs.Search.Failure
import PhraseRules.Proofs.Search.Farthest
import PhraseRules.Proofs.Search.Filling
import PhraseRules.Proofs.Search.GroupSession
import PhraseRules.Proofs.Search.Groups
import PhraseRules.Proofs.Search.Mark
import PhraseRules.Proofs.Search.Memory
import PhraseRules.Proofs.Search.Offers
import PhraseRules.Proofs.Search.Optional
import PhraseRules.Proofs.Search.Order
import PhraseRules.Proofs.Search.Placement
import PhraseRules.Proofs.Search.Protection
import PhraseRules.Proofs.Search.Rebinding
import PhraseRules.Proofs.Search.Reference
import PhraseRules.Proofs.Search.Replacement
import PhraseRules.Proofs.Search.Scan
import PhraseRules.Proofs.Search.Session
import PhraseRules.Proofs.Search.Settled
import PhraseRules.Proofs.Search.Validity
import PhraseRules.Proofs.Search.Ways
import PhraseRules.Proofs.Sentence.Analysed
import PhraseRules.Proofs.Sentence.Division
import PhraseRules.Proofs.Sentence.Ends
import PhraseRules.Proofs.Sentence.Excerpt
import PhraseRules.Proofs.Sentence.Faultless
import PhraseRules.Proofs.Sentence.Frame
import PhraseRules.Proofs.Sentence.Layout
import PhraseRules.Proofs.Sentence.Produced
import PhraseRules.Proofs.Slot.Acceptance
import PhraseRules.Proofs.Slot.Compiled
import PhraseRules.Proofs.Slot.Growth
import PhraseRules.Proofs.Slot.Hints
import PhraseRules.Proofs.Slot.Necessity
import PhraseRules.Proofs.Slot.Readings
import PhraseRules.Proofs.SortedMap
import PhraseRules.Proofs.Text.Casing
import PhraseRules.Proofs.Text.Cuts
import PhraseRules.Proofs.Text.Lines
import PhraseRules.Proofs.Text.Numbers
import PhraseRules.Proofs.Text.Tokens
import PhraseRules.Reading
import PhraseRules.Regex.Ast
import PhraseRules.Regex.Basic
import PhraseRules.Regex.CharSet
import PhraseRules.Regex.Compile
import PhraseRules.Regex.DerivedProperty
import PhraseRules.Regex.Meaning
import PhraseRules.Regex.Parser
import PhraseRules.Regex.Property
import PhraseRules.Regex.Replace
import PhraseRules.Regex.Search
import PhraseRules.Regex.Size
import PhraseRules.Rendering
import PhraseRules.Rule.Basic
import PhraseRules.Rule.Finding
import PhraseRules.Rule.Marked
import PhraseRules.Rule.Template
import PhraseRules.Rulebook
import PhraseRules.Search.Basic
import PhraseRules.Search.Placement
import PhraseRules.Search.Query
import PhraseRules.Search.Reference
import PhraseRules.Search.Scan
import PhraseRules.Sentence.Basic
import PhraseRules.Sentence.Split
import PhraseRules.Slot.Basic
import PhraseRules.Slot.Criterion
import PhraseRules.Slot.Spec
import PhraseRules.Sorted
import PhraseRules.Synthesis
import PhraseRules.Text.Blank
import PhraseRules.Text.Casing
import PhraseRules.Text.Number
import PhraseRules.Text.Token
import PhraseRules.Unicode.Alphabetic
import PhraseRules.Unicode.Boundaries
import PhraseRules.Unicode.CaseMapping
import PhraseRules.Unicode.Cased
import PhraseRules.Unicode.Category
import PhraseRules.Unicode.Folding
import PhraseRules.Unicode.Numeric
import PhraseRules.Unicode.Property
import PhraseRules.Unicode.Ranges
import PhraseRules.Unicode.Script
import PhraseRules.Unicode.ScriptExtension
import PhraseRules.Unicode.Utf8
import PhraseRules.Unicode.WhiteSpace

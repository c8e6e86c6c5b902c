import ScopeGrammar.Main
import ScopeGrammar.Proofs.Capture.Forest
import ScopeGrammar.Proofs.Capture.Laminar
import ScopeGrammar.Proofs.Capture.Nested
import ScopeGrammar.Proofs.Capture.Parents
import ScopeGrammar.Proofs.Capture.Preorder
import ScopeGrammar.Proofs.Capture.Slices
import ScopeGrammar.Proofs.Engine
import ScopeGrammar.Proofs.Grammar.Closed
import ScopeGrammar.Proofs.Grammar.Layout
import ScopeGrammar.Proofs.Grammar.Lexical
import ScopeGrammar.Proofs.Grammar.Outcome
import ScopeGrammar.Proofs.Pattern.LiteralSearch
import ScopeGrammar.Proofs.Pattern.MachineLiterals
import ScopeGrammar.Proofs.Pattern.Occurrences
import ScopeGrammar.Proofs.Pattern.References
import ScopeGrammar.Proofs.Pattern.Spelling
import ScopeGrammar.Proofs.Registry.Closed
import ScopeGrammar.Proofs.Registry.Flattening
import ScopeGrammar.Proofs.Registry.History
import ScopeGrammar.Proofs.Registry.Reaching
import ScopeGrammar.Proofs.Registry.Records
import ScopeGrammar.Proofs.Registry.Unrelated
import ScopeGrammar.Proofs.Scope.Flatten
import ScopeGrammar.Proofs.Scope.Interning
import ScopeGrammar.Proofs.Scope.Room
import ScopeGrammar.Proofs.Scope.Stretches
import ScopeGrammar.Proofs.Selector.Connectives
import ScopeGrammar.Proofs.Selector.Derivation
import ScopeGrammar.Proofs.Selector.Lexing
import ScopeGrammar.Proofs.Selector.Paths
import ScopeGrammar.Proofs.Selector.Reading
import ScopeGrammar.Proofs.Selector.Syntax
import ScopeGrammar.Proofs.Text.Lines
import ScopeGrammar.Proofs.Text.RangeTable
import ScopeGrammar.Proofs.Text.Splitting
import ScopeGrammar.Proofs.Tokenizer.Agreement
import ScopeGrammar.Proofs.Tokenizer.Anchors
import ScopeGrammar.Proofs.Tokenizer.Begun
import ScopeGrammar.Proofs.Tokenizer.Carried
import ScopeGrammar.Proofs.Tokenizer.Confined
import ScopeGrammar.Proofs.Tokenizer.Coverage
import ScopeGrammar.Proofs.Tokenizer.Enlarged
import ScopeGrammar.Proofs.Tokenizer.Faults
import ScopeGrammar.Proofs.Tokenizer.Groups
import ScopeGrammar.Proofs.Tokenizer.Interleaving
import ScopeGrammar.Proofs.Tokenizer.Isolation
import ScopeGrammar.Proofs.Tokenizer.Kept
import ScopeGrammar.Proofs.Tokenizer.Memories
import ScopeGrammar.Proofs.Tokenizer.Ordered
import ScopeGrammar.Proofs.Tokenizer.Potential
import ScopeGrammar.Proofs.Tokenizer.Preference
import ScopeGrammar.Proofs.Tokenizer.Recursion
import ScopeGrammar.Proofs.Tokenizer.Refusals
import ScopeGrammar.Proofs.Tokenizer.Remembered
import ScopeGrammar.Proofs.Tokenizer.Resolved
import ScopeGrammar.Proofs.Tokenizer.Rows
import ScopeGrammar.Proofs.Tokenizer.Runs
import ScopeGrammar.Proofs.Tokenizer.Scoped
import ScopeGrammar.Proofs.Tokenizer.Termination
import ScopeGrammar.Proofs.Tokenizer.Terminators
import ScopeGrammar.Proofs.Tokenizer.Undisturbed

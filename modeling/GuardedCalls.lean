import GuardedCalls.Main
import GuardedCalls.Proofs.Nodes
import GuardedCalls.Proofs.Rebuild
import GuardedCalls.Proofs.Verdicts
import GuardedCalls.Proofs.Walks
import GuardedCalls.Proofs.Runs
import GuardedCalls.Proofs.Idempotence
import GuardedCalls.Proofs.Innermost
import GuardedCalls.Proofs.Accounting
import GuardedCalls.Proofs.Parentheses
import GuardedCalls.Proofs.Cuts
import GuardedCalls.Proofs.TypePatterns
import GuardedCalls.Proofs.Regex
import GuardedCalls.Proofs.MethodPatterns
import GuardedCalls.Proofs.Lexemes
import GuardedCalls.Proofs.Spines
import GuardedCalls.Proofs.UniqueReading
import GuardedCalls.Proofs.Changes
import GuardedCalls.Proofs.Imports
import GuardedCalls.Proofs.Spelling
import GuardedCalls.Proofs.MemberOrder
import GuardedCalls.Proofs.TreeJson
import GuardedCalls.Proofs.JsonScalars
import GuardedCalls.Proofs.JsonText
import GuardedCalls.Proofs.RoundTrip
import GuardedCalls.Proofs.Operands
import GuardedCalls.Proofs.Skipped
import GuardedCalls.Proofs.Histories
import GuardedCalls.Proofs.Offers
import GuardedCalls.Proofs.Brackets
import GuardedCalls.Proofs.ImportRequests
import GuardedCalls.Proofs.ArgumentBlocks
import GuardedCalls.Proofs.Unresolved
import GuardedCalls.Proofs.SourceOrder
import GuardedCalls.Proofs.StaticTypes
import GuardedCalls.Proofs.ImportOrder
import GuardedCalls.Proofs.Notations
import GuardedCalls.Proofs.UnknownTypes
import GuardedCalls.Proofs.Dimensions
import GuardedCalls.Proofs.Indentation
import GuardedCalls.Proofs.JsonGrammar
import GuardedCalls.Proofs.Responses
import GuardedCalls.Proofs.VisibleParts
import GuardedCalls.Proofs.TypeNames
import GuardedCalls.Proofs.ArgumentRegex

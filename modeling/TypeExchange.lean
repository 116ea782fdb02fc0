import TypeExchange.Inspection
import TypeExchange.Config.Json
import TypeExchange.Json.Reader
import TypeExchange.Main
import TypeExchange.Proofs.Config.Validation
import TypeExchange.Proofs.Table.Operations
import TypeExchange.Proofs.Table.Pairs
import TypeExchange.Proofs.Template.Grammar
import TypeExchange.Proofs.Config.Interpretation
import TypeExchange.Proofs.Regex.Language
import TypeExchange.Proofs.Builtin.AbiTypes
import TypeExchange.Proofs.Config.Compilation
import TypeExchange.Proofs.Regex.Denotation
import TypeExchange.Proofs.Regex.Matching
import TypeExchange.Proofs.Builtin.AbiGrammar
import TypeExchange.Proofs.Builtin.ValueTypes
import TypeExchange.Proofs.Builtin.Chains
import TypeExchange.Proofs.Config.Schema
import TypeExchange.Proofs.Config.Serialization
import TypeExchange.Proofs.Json.Text
import TypeExchange.Proofs.Command.Reading
import TypeExchange.Proofs.Command.Logging
import TypeExchange.Proofs.Command.Lookups
import TypeExchange.Proofs.Command.ExitCodes
import TypeExchange.Proofs.Table.Agreement
import TypeExchange.Proofs.Builtin.ListTypes
import TypeExchange.Proofs.Config.Documents
import TypeExchange.Proofs.Builtin.AbiArrays
import TypeExchange.Proofs.Builtin.AbiWriting
import TypeExchange.Proofs.Builtin.ValueRows
import TypeExchange.Proofs.Table.Narrowing
import TypeExchange.Proofs.Builtin.NarrowestFirst
import TypeExchange.Proofs.Config.Demands
import TypeExchange.Proofs.Template.Meaning
import TypeExchange.Proofs.Template.Printing
import TypeExchange.Proofs.Template.Refusals
import TypeExchange.Proofs.Builtin.CodeEmbedding
import TypeExchange.Proofs.Table.Reordering
import TypeExchange.Proofs.Table.RoundTrip
import TypeExchange.Proofs.Naming

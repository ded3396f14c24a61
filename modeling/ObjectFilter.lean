import ObjectFilter.Text.Blank
import ObjectFilter.Text.Insensitive
import ObjectFilter.Text.Quoted
import ObjectFilter.Text.Pieces
import ObjectFilter.Number.Numeral
import ObjectFilter.Number.Shortest
import ObjectFilter.Number.FloatNumeral
import ObjectFilter.Number.Decimal
import ObjectFilter.Value
import ObjectFilter.ValueType
import ObjectFilter.Comparator
import ObjectFilter.Property
import ObjectFilter.Catalog
import ObjectFilter.Literal
import ObjectFilter.PreparedCondition
import ObjectFilter.Cache
import ObjectFilter.World.Parsers
import ObjectFilter.Report
import ObjectFilter.Definition.Compile
import ObjectFilter.Definition.Read
import ObjectFilter.Declaration
import ObjectFilter.Proofs.Number.Numeral
import ObjectFilter.Proofs.Condition.IntegerComparison
import ObjectFilter.Proofs.Condition.TextMatching
import ObjectFilter.Proofs.Literal.Typing
import ObjectFilter.Proofs.Condition.Preparation
import ObjectFilter.Proofs.Compiler.Faults
import ObjectFilter.Proofs.Compiler.Conjunction
import ObjectFilter.Proofs.Definition.Refusal
import ObjectFilter.Proofs.Cache.Runs
import ObjectFilter.Proofs.Condition.RegisteredParser
import ObjectFilter.Proofs.Property.Typing
import ObjectFilter.Proofs.Condition.Matching
import ObjectFilter.Proofs.World.Typing
import ObjectFilter.Proofs.Property.Path
import ObjectFilter.Proofs.Definition.RoundTrip
import ObjectFilter.Proofs.Compiler.Events
import ObjectFilter.Proofs.Comparator.Order
import ObjectFilter.Proofs.Condition.Bound
import ObjectFilter.Proofs.Condition.Opposition
import ObjectFilter.Proofs.Condition.TextEquality
import ObjectFilter.Proofs.Literal.Hexadecimal
import ObjectFilter.Proofs.Number.Written
import ObjectFilter.Proofs.Text.Blank
import ObjectFilter.Proofs.Literal.Spelling
import ObjectFilter.Proofs.Literal.Character
import ObjectFilter.Proofs.Text.Name
import ObjectFilter.Proofs.Literal.Member
import ObjectFilter.Proofs.Property.Canonical
import ObjectFilter.Proofs.Number.Nearest
import ObjectFilter.Proofs.Literal.TypedInteger
import ObjectFilter.Proofs.Property.Binding
import ObjectFilter.Proofs.Compiler.Rejection
import ObjectFilter.Proofs.Declaration.Name
import ObjectFilter.Proofs.Declaration.Lookup
import ObjectFilter.Proofs.Catalog.Registration
import ObjectFilter.Proofs.Compiler.Registration
import ObjectFilter.Proofs.Definition.Validation
import ObjectFilter.Proofs.World.Point

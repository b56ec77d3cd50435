import RecordQuery.Clause
import RecordQuery.Coercion
import RecordQuery.Config
import RecordQuery.Cursor.Basic
import RecordQuery.Cursor.Codec
import RecordQuery.Derive.Attribute
import RecordQuery.Derive.ConstantName
import RecordQuery.Derive.Declaration
import RecordQuery.Derive.Error
import RecordQuery.Derive.Grammar
import RecordQuery.Derive.Grammar.Attribute
import RecordQuery.Derive.Grammar.Basic
import RecordQuery.Derive.Grammar.Expression
import RecordQuery.Derive.Grammar.Field
import RecordQuery.Derive.Grammar.Item
import RecordQuery.Derive.Grammar.Pattern
import RecordQuery.Derive.Grammar.Statement
import RecordQuery.Derive.Grammar.Type
import RecordQuery.Derive.Lexer
import RecordQuery.Derive.Literal
import RecordQuery.Derive.Reader
import RecordQuery.Derive.Schema
import RecordQuery.Derive.Token
import RecordQuery.Derive.TypeExpr
import RecordQuery.Error
import RecordQuery.Evaluator
import RecordQuery.Filter.Basic
import RecordQuery.Filter.Document
import RecordQuery.Json.Basic
import RecordQuery.Json.Reader
import RecordQuery.Json.Shape
import RecordQuery.Json.Tree
import RecordQuery.Json.Writer
import RecordQuery.Keyed
import RecordQuery.Keyset
import RecordQuery.Number.Basic
import RecordQuery.Number.Binary64
import RecordQuery.Number.Rounding
import RecordQuery.Number.Shortest
import RecordQuery.Number.Text
import RecordQuery.Operator
import RecordQuery.Paging
import RecordQuery.Pattern.Anchor
import RecordQuery.Pattern.Automaton
import RecordQuery.Pattern.Basic
import RecordQuery.Pattern.CharSet
import RecordQuery.Pattern.Expr
import RecordQuery.Pattern.Flags
import RecordQuery.Pattern.Property
import RecordQuery.Pattern.Property.Age
import RecordQuery.Pattern.Property.Binary
import RecordQuery.Pattern.Property.Break
import RecordQuery.Pattern.Property.Category
import RecordQuery.Pattern.Property.Listed
import RecordQuery.Pattern.Property.Named
import RecordQuery.Pattern.Property.Script
import RecordQuery.Pattern.Property.ScriptExtension
import RecordQuery.Pattern.Reader.Basic
import RecordQuery.Pattern.Reader.Escape
import RecordQuery.Pattern.Reader.Group
import RecordQuery.Pattern.Reader.Set
import RecordQuery.Pattern.Scan
import RecordQuery.Proofs.AcceptedTokens
import RecordQuery.Proofs.Base64
import RecordQuery.Proofs.Boundary
import RecordQuery.Proofs.CacheKey
import RecordQuery.Proofs.CalendarDates
import RecordQuery.Proofs.CanonicalSpecification
import RecordQuery.Proofs.Capture
import RecordQuery.Proofs.CapturedPresence
import RecordQuery.Proofs.CompiledMeaning
import RecordQuery.Proofs.CompleteWalk
import RecordQuery.Proofs.Composition
import RecordQuery.Proofs.ConditionMeaning
import RecordQuery.Proofs.DecimalText
import RecordQuery.Proofs.DeclaredShape
import RecordQuery.Proofs.DelimitedText
import RecordQuery.Proofs.DocumentMeaning
import RecordQuery.Proofs.ErrorOrigin
import RecordQuery.Proofs.FilterMeaning
import RecordQuery.Proofs.FilterText
import RecordQuery.Proofs.InMemory
import RecordQuery.Proofs.JsonDistinct
import RecordQuery.Proofs.JsonObject
import RecordQuery.Proofs.JsonText
import RecordQuery.Proofs.KeyOrder
import RecordQuery.Proofs.KeyedEntries
import RecordQuery.Proofs.KeysetOrder
import RecordQuery.Proofs.Listing
import RecordQuery.Proofs.Neighbors
import RecordQuery.Proofs.NormalFilter
import RecordQuery.Proofs.NumberOrder
import RecordQuery.Proofs.NumberedPages
import RecordQuery.Proofs.Numerals
import RecordQuery.Proofs.OperandKind
import RecordQuery.Proofs.OperandText
import RecordQuery.Proofs.Page
import RecordQuery.Proofs.PageEnds
import RecordQuery.Proofs.PageTokens
import RecordQuery.Proofs.Path
import RecordQuery.Proofs.Places
import RecordQuery.Proofs.QueryModes
import RecordQuery.Proofs.Return
import RecordQuery.Proofs.ReachableText
import RecordQuery.Proofs.RoundTrip
import RecordQuery.Proofs.ShortestDecimals
import RecordQuery.Proofs.SortText
import RecordQuery.Proofs.Sorting
import RecordQuery.Proofs.Sorting.Merging
import RecordQuery.Proofs.Sorting.Ranks
import RecordQuery.Proofs.Sorting.Runs
import RecordQuery.Proofs.Sorting.Small
import RecordQuery.Proofs.Sorting.Stable
import RecordQuery.Proofs.TextParts
import RecordQuery.Proofs.TimestampText
import RecordQuery.Proofs.Token
import RecordQuery.Proofs.TotalOrder
import RecordQuery.Proofs.TypedFilter
import RecordQuery.Proofs.UuidText
import RecordQuery.Proofs.ValueOrder
import RecordQuery.Proofs.Walk
import RecordQuery.Proofs.WayBack
import RecordQuery.Proofs.WholeNumbers
import RecordQuery.Proofs.Window
import RecordQuery.Request
import RecordQuery.Schema
import RecordQuery.Search
import RecordQuery.SortOrder
import RecordQuery.Sorting.Insertion
import RecordQuery.Sorting.Runs
import RecordQuery.Sorting.Small
import RecordQuery.Sorting.Stable
import RecordQuery.Source
import RecordQuery.Specification
import RecordQuery.Text.Ascii
import RecordQuery.Text.Base64
import RecordQuery.Text.Blank
import RecordQuery.Text.CaseFolding
import RecordQuery.Text.Class.Casing
import RecordQuery.Text.Class.Identifiers
import RecordQuery.Text.Class.Printing
import RecordQuery.Text.Class.Words
import RecordQuery.Text.Hex
import RecordQuery.Text.LowerCase
import RecordQuery.Text.LowerCase.Table
import RecordQuery.Text.Quoted
import RecordQuery.Text.Ranges
import RecordQuery.Text.Split
import RecordQuery.Text.Utf8
import RecordQuery.Time.Calendar
import RecordQuery.Time.Reader
import RecordQuery.Time.Timestamp
import RecordQuery.Uuid
import RecordQuery.Value
import RecordQuery.Proofs.IgnoredCase
import RecordQuery.Proofs.DocumentGrammar
import RecordQuery.Proofs.Spellings
import RecordQuery.Proofs.Grouping
import RecordQuery.Proofs.Complement
import RecordQuery.Proofs.RecompiledOrder
import RecordQuery.Proofs.RespelledSpecification
import RecordQuery.Proofs.NamedTargets
import RecordQuery.Proofs.Includes
import RecordQuery.Proofs.DerivedEntries
import RecordQuery.Proofs.ConstantNames
import RecordQuery.Proofs.ConstantWords
import RecordQuery.Proofs.QuotedNumbers
import RecordQuery.Proofs.CanonicalPaths
import RecordQuery.Proofs.PathLeaves

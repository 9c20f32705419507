import FilterQuery.Config.Json
import FilterQuery.Json.Read
import FilterQuery.Main
import FilterQuery.Proofs.BlanksAndQuotes
import FilterQuery.Proofs.CollectionKeys
import FilterQuery.Proofs.ComparisonBudget
import FilterQuery.Proofs.CompileMeaning
import FilterQuery.Proofs.CompletableQueries
import FilterQuery.Proofs.ConfigSpellings
import FilterQuery.Proofs.Expressible
import FilterQuery.Proofs.Extension
import FilterQuery.Proofs.FieldNames
import FilterQuery.Proofs.FragmentTables
import FilterQuery.Proofs.IntegerValues
import FilterQuery.Proofs.LikePatterns
import FilterQuery.Proofs.ParseGrammar
import FilterQuery.Proofs.PlaceholderNumbers
import FilterQuery.Proofs.QueryComposition
import FilterQuery.Proofs.QueryOutcome
import FilterQuery.Proofs.ReportedJson
import FilterQuery.Proofs.Respelling
import FilterQuery.Proofs.TemplateSafety
import FilterQuery.Proofs.TermCalls
import FilterQuery.Proofs.TokenSpans
import FilterQuery.Proofs.TokenTables

import DocPath.Document.Json
import DocPath.Document.Markup
import DocPath.Document.Session
import DocPath.Path.Stored
import DocPath.Proofs.Document.Agreement
import DocPath.Proofs.Document.FreeNames
import DocPath.Proofs.Document.Memory
import DocPath.Proofs.Document.RootPath
import DocPath.Proofs.Path.Accepted
import DocPath.Proofs.Path.Precedence
import DocPath.Proofs.Path.Stored
import DocPath.Proofs.Document.Answers
import DocPath.Proofs.Document.MissingProperty
import DocPath.Proofs.Document.Parameters
import DocPath.Proofs.Eval.Renaming
import DocPath.Proofs.Eval.ImplicitParameter
import DocPath.Proofs.Eval.SingleElement
import DocPath.Proofs.Xml.ReadBack
import DocPath.Proofs.Document.Relative
import DocPath.Proofs.Document.Narrowing
import DocPath.Proofs.Document.Integers
import DocPath.Proofs.Number.Ordering
import DocPath.Proofs.Html.Listing
import DocPath.Proofs.Value.Equality
import DocPath.Proofs.Html.Nested
import DocPath.Proofs.Document.Recorded
import DocPath.Proofs.Eval.Unique
import DocPath.Proofs.Eval.Comparison
import DocPath.Proofs.Eval.Words
import DocPath.Proofs.Eval.Searching
import DocPath.Proofs.Value.Scale
import DocPath.Proofs.Eval.Sorting
import DocPath.Proofs.Eval.Indexing
import DocPath.Proofs.Number.Fraction
import DocPath.Proofs.Value.Descent
import DocPath.Proofs.Eval.Subscripts
import DocPath.Proofs.Eval.Broadcast
import DocPath.Proofs.Eval.Spread
import DocPath.Proofs.Document.QuotedKeys
import DocPath.Proofs.Path.SyntaxErrors
import DocPath.Proofs.Path.TrailingClosure
import DocPath.Proofs.Eval.Counting
import DocPath.Proofs.Element.Rendering
import DocPath.Proofs.Path.RootSpellings
import DocPath.Proofs.Document.KeySubscripts
import DocPath.Proofs.Value.Truth

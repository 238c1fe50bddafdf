import Proximity.Query.Assembly
import Proximity.Analysis.Simple
import Proximity.Capitalization.Document
import Proximity.Main
import Proximity.Proofs.Text.Trim
import Proximity.Proofs.Text.CodePoints
import Proximity.Proofs.Text.Utf8
import Proximity.Proofs.Text.Styled
import Proximity.Proofs.Text.Lowercase
import Proximity.Proofs.Text.WordBreak
import Proximity.Proofs.Expression.Decomposition
import Proximity.Proofs.Expression.Splitting
import Proximity.Proofs.Expression.Token
import Proximity.Proofs.Expression.Operand
import Proximity.Proofs.Expression.Outcome
import Proximity.Proofs.Text.Words
import Proximity.Proofs.Expression.Written
import Proximity.Proofs.Expression.Minimum
import Proximity.Proofs.Query.WellFormed
import Proximity.Proofs.Query.LooseTree
import Proximity.Proofs.Expression.Joining
import Proximity.Proofs.Expression.Respelling
import Proximity.Proofs.Query.Modes
import Proximity.Proofs.Json.Numeral
import Proximity.Proofs.Json.Quote
import Proximity.Proofs.Json.RoundTrip
import Proximity.Proofs.Json.Record
import Proximity.Proofs.Query.Document
import Proximity.Proofs.Query.Rendering
import Proximity.Proofs.Query.Field
import Proximity.Proofs.Query.Row
import Proximity.Proofs.Query.Outline
import Proximity.Proofs.Query.Colours
import Proximity.Proofs.Query.Assembly
import Proximity.Proofs.Capitalization.Grammar
import Proximity.Proofs.Capitalization.Outcome
import Proximity.Proofs.Capitalization.Payload
import Proximity.Proofs.Capitalization.Class
import Proximity.Proofs.Json.Depth
import Proximity.Proofs.Json.Place
import Proximity.Proofs.Json.Kind
import Proximity.Proofs.Json.Name
import Proximity.Proofs.Json.Object
import Proximity.Proofs.Json.Fields
import Proximity.Proofs.Request.Document
import Proximity.Proofs.Request.Percent
import Proximity.Proofs.Request.Outcome
import Proximity.Proofs.Request.Refusal
import Proximity.Proofs.Cli.Arguments
import Proximity.Proofs.Cli.FrontEnds
import Proximity.Proofs.Cli.Event
import Proximity.Proofs.Analysis.Standard
import Proximity.Proofs.Analysis.Whitespace
import Proximity.Proofs.Analysis.Simple

import Relevance.Files.Disk
import Relevance.Main
import Relevance.Proofs.Query.Explaining
import Relevance.Proofs.Query.Normalizing
import Relevance.Proofs.Query.Accounting
import Relevance.Proofs.Query.Shifting
import Relevance.Proofs.Query.Meaning
import Relevance.Proofs.Index.Capacity
import Relevance.Proofs.Index.Keyed
import Relevance.Proofs.Numeric.Double
import Relevance.Proofs.Index.Statistics
import Relevance.Proofs.Index.Norms
import Relevance.Proofs.Index.Lengths
import Relevance.Proofs.Index.NormByte
import Relevance.Proofs.Index.Visiting
import Relevance.Proofs.Query.Alike
import Relevance.Proofs.Query.History
import Relevance.Proofs.Query.Written
import Relevance.Proofs.Analysis.Positions
import Relevance.Proofs.Site.Indexing
import Relevance.Proofs.Query.Ranking
import Relevance.Proofs.Site.Finding
import Relevance.Proofs.Query.Faultless
import Relevance.Proofs.Query.Boosting
import Relevance.Proofs.Numeric.Order
import Relevance.Proofs.Query.Selection
import Relevance.Proofs.Numeric.Reciprocal
import Relevance.Proofs.Query.Nearest
import Relevance.Proofs.Query.Sloppy
import Relevance.Proofs.Numeric.Counting
import Relevance.Proofs.Query.InPlace
import Relevance.Proofs.Query.Occurrences
import Relevance.Proofs.Query.Slop
import Relevance.Proofs.Numeric.Signs
import Relevance.Proofs.Query.Shortcuts
import Relevance.Proofs.Index.Ranges
import Relevance.Proofs.Numeric.Logarithm
import Relevance.Proofs.Query.Factors
import Relevance.Proofs.Query.Moderate
import Relevance.Proofs.Query.Usable
import Relevance.Proofs.Query.Parts
import Relevance.Proofs.Query.Shape
import Relevance.Proofs.Page.Stripping
import Relevance.Proofs.Page.Extraction
import Relevance.Proofs.Page.Escaping
import Relevance.Proofs.Analysis.Filters
import Relevance.Proofs.Query.OwnPhrases
import Relevance.Proofs.Site.Walking
import Relevance.Proofs.Index.Registering
import Relevance.Proofs.Scoring.Printed
import Relevance.Proofs.Settings.Objects

import Dossier.Main
import Dossier.Proofs.Analysis.Connections
import Dossier.Proofs.Analysis.Contents
import Dossier.Proofs.Analysis.Importance
import Dossier.Proofs.Binary64.Arithmetic
import Dossier.Proofs.Binary64.Rounding
import Dossier.Proofs.Binary64.Value
import Dossier.Proofs.Cache.History
import Dossier.Proofs.Classifier
import Dossier.Proofs.EditDistance
import Dossier.Proofs.Extract.Matching
import Dossier.Proofs.Extract.Resolution
import Dossier.Proofs.Glob.Segment
import Dossier.Proofs.Pattern.Captures
import Dossier.Proofs.Search.OwnName
import Dossier.Proofs.Search.Scoring
import Dossier.Proofs.Search.Widening
import Dossier.Proofs.Selection.Accounting
import Dossier.Proofs.Selection.Assembled
import Dossier.Proofs.Selection.Assembly
import Dossier.Proofs.Selection.Expansion
import Dossier.Proofs.Selection.Greedy
import Dossier.Proofs.Selection.Locations
import Dossier.Proofs.Selection.Lookup
import Dossier.Proofs.Selection.Relevance
import Dossier.Proofs.Selection.Rescoring
import Dossier.Proofs.Selection.Spending
import Dossier.Proofs.Selection.Strategies
import Dossier.Proofs.Session.History
import Dossier.Proofs.Session.Invalidation
import Dossier.Proofs.Session.Replies
import Dossier.Proofs.Walk

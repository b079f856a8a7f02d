import CoinQuery.Main
import CoinQuery.Engine.Operation
import CoinQuery.Proofs.Coin.Portable
import CoinQuery.Proofs.Inspection
import CoinQuery.Proofs.Relation.Noise
import CoinQuery.Proofs.Relation.PrunedExpression
import CoinQuery.Proofs.Relation.PrunedDiagnosis
import CoinQuery.Proofs.Engine.Editing
import CoinQuery.Proofs.Engine.Answers
import CoinQuery.Proofs.Engine.Addition
import CoinQuery.Proofs.Engine.Removal
import CoinQuery.Proofs.Engine.Interference
import CoinQuery.Proofs.Engine.Independence
import CoinQuery.Proofs.Engine.Refusal
import CoinQuery.Proofs.Engine.Backspace
import CoinQuery.Proofs.Engine.Keywords
import CoinQuery.Proofs.Results.Groups
import CoinQuery.Proofs.Relation.Joined
import CoinQuery.Proofs.Relation.PaddedLabel
import CoinQuery.Proofs.Relation.BoundLabels
import CoinQuery.Proofs.Relation.Parentheses
import CoinQuery.Proofs.Service.Recommendations

import Skirmish.Turn.Auto
import Skirmish.Snapshot.Battle
import Skirmish.Json.Reader
import Skirmish.Json.Writer
import Skirmish.Document.Battle
import Skirmish.Document.Definition
import Skirmish.Proofs.Search
import Skirmish.Proofs.Events
import Skirmish.Proofs.Traces
import Skirmish.Proofs.Holdings
import Skirmish.Proofs.Boundaries
import Skirmish.Proofs.Refusal
import Skirmish.Proofs.Cast
import Skirmish.Proofs.CastKept
import Skirmish.Proofs.Changes
import Skirmish.Proofs.Evolution
import Skirmish.Proofs.Calls
import Skirmish.Proofs.Unfolding
import Skirmish.Proofs.Answers
import Skirmish.Proofs.Vitals
import Skirmish.Proofs.Roster
import Skirmish.Proofs.Nesting
import Skirmish.Proofs.Doubles
import Skirmish.Proofs.Choice
import Skirmish.Proofs.Ending
import Skirmish.Proofs.Progress
import Skirmish.Proofs.Snapshots
import Skirmish.Proofs.History
import Skirmish.Proofs.Stretches
import Skirmish.Proofs.Rewards
import Skirmish.Proofs.Cooldowns
import Skirmish.Proofs.Skips
import Skirmish.Proofs.Statuses
import Skirmish.Proofs.Tidiness
import Skirmish.Proofs.Backing
import Skirmish.Proofs.Spending
import Skirmish.Proofs.Sparing
import Skirmish.Proofs.Lifetimes
import Skirmish.Proofs.Fallen
import Skirmish.Proofs.Grammar
import Skirmish.Proofs.Lexing
import Skirmish.Proofs.Values
import Skirmish.Proofs.Frames
import Skirmish.Proofs.Taunts
import Skirmish.Proofs.Stores
import Skirmish.Proofs.Targeting
import Skirmish.Proofs.Ranking
import Skirmish.Proofs.DamageHooks
import Skirmish.Proofs.Grants
import Skirmish.Proofs.Naming
import Skirmish.Proofs.Fleeing
import Skirmish.Proofs.Reentry
import Skirmish.Proofs.Wounds
import Skirmish.Proofs.Cleansing
import Skirmish.Proofs.Bystanders
import Skirmish.Proofs.Accuracy
import Skirmish.Proofs.Conversion
import Skirmish.Proofs.Effective
import Skirmish.Proofs.Namesakes
import Skirmish.Proofs.Stock
import Skirmish.Proofs.Stacking
import Skirmish.Proofs.Ranges
import Skirmish.Proofs.Overflow
import Skirmish.Proofs.Connectives
import Skirmish.Proofs.Truncation
import Skirmish.Proofs.Absorption
import Skirmish.Proofs.Foes
import Skirmish.Proofs.Summons

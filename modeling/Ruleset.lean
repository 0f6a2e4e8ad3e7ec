import Ruleset.Binary32.Basic
import Ruleset.Binary32.Round
import Ruleset.Binary32.Arith
import Ruleset.Binary32.Shortest
import Ruleset.Binary32.Text
import Ruleset.Binary32.Scaled
import Ruleset.Text.Quoted
import Ruleset.Text.Blank
import Ruleset.Text.Ranges
import Ruleset.Text.Identifier
import Ruleset.Text.Printable
import Ruleset.Text.Integer
import Ruleset.Scope
import Ruleset.Feature
import Ruleset.Grouped
import Ruleset.Container
import Ruleset.Options
import Ruleset.Error
import Ruleset.Document
import Ruleset.RuleType
import Ruleset.Registry.Basic
import Ruleset.Registry.Merge
import Ruleset.Registry.Inheritance
import Ruleset.Registry.Lifecycle
import Ruleset.Registry.Session
import Ruleset.Xml.Error
import Ruleset.Xml.Escape
import Ruleset.Xml.Attribute
import Ruleset.Xml.Token
import Ruleset.Xml.Element
import Ruleset.Xml.Document
import Ruleset.Ron.Error
import Ruleset.Ron.Cursor
import Ruleset.Ron.Literal
import Ruleset.Ron.Number
import Ruleset.Ron.Value
import Ruleset.Ron.Structure
import Ruleset.Ron.Decode
import Ruleset.Files
import Ruleset.Loader
import Ruleset.Proofs.Grouped
import Ruleset.Proofs.Replay
import Ruleset.Proofs.Kahn
import Ruleset.Proofs.Resolve
import Ruleset.Proofs.BareTable
import Ruleset.Proofs.Load
import Ruleset.Proofs.Finalize
import Ruleset.Proofs.Session
import Ruleset.Proofs.Resolution
import Ruleset.Proofs.Invariants
import Ruleset.Proofs.Validation
import Ruleset.Proofs.Reopen
import Ruleset.Proofs.Redefine
import Ruleset.Proofs.Cycle
import Ruleset.Proofs.LoadingView
import Ruleset.Proofs.Reader
import Ruleset.Proofs.TableOrder
import Ruleset.Proofs.LoadOrder
import Ruleset.Proofs.ContainerHistory
import Ruleset.Proofs.ModifierOrder
import Ruleset.Proofs.UnreadReports
import Ruleset.Proofs.Merge
import Ruleset.Proofs.Applicability
import Ruleset.Proofs.ElementTree
import Ruleset.Proofs.DirectoryWalk

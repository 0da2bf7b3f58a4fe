import VpcOperator.Cluster
import VpcOperator.Controller.Timing
import VpcOperator.Json.Printer
import VpcOperator.Json.Reader
import VpcOperator.Proofs.Account.Distinct
import VpcOperator.Proofs.Account.Keeping
import VpcOperator.Proofs.Balancing.Active
import VpcOperator.Proofs.Balancing.Forwarding
import VpcOperator.Proofs.Balancing.Lasting
import VpcOperator.Proofs.Balancing.Marked
import VpcOperator.Proofs.Balancing.OneByOne
import VpcOperator.Proofs.Balancing.Placement
import VpcOperator.Proofs.Balancing.Turns
import VpcOperator.Proofs.Blanks
import VpcOperator.Proofs.Cells
import VpcOperator.Proofs.Controller.Deadlines
import VpcOperator.Proofs.Controller.Report
import VpcOperator.Proofs.Convergence.Bound
import VpcOperator.Proofs.DeclaredIds
import VpcOperator.Proofs.Firewall.Memo
import VpcOperator.Proofs.Firewall.Mirrored
import VpcOperator.Proofs.Firewall.Missing
import VpcOperator.Proofs.Firewall.Recognised
import VpcOperator.Proofs.Firewall.Redundant
import VpcOperator.Proofs.Firewall.Rounds
import VpcOperator.Proofs.Firewall.Transparent
import VpcOperator.Proofs.Grouping.Images
import VpcOperator.Proofs.Halting
import VpcOperator.Proofs.Order.Prepared
import VpcOperator.Proofs.Provenance.Steps
import VpcOperator.Proofs.Rearranged
import VpcOperator.Proofs.Sharing.Neighbours
import VpcOperator.Proofs.Steady.Fixpoint
import VpcOperator.Proofs.Tracked
import VpcOperator.Simulation.Controller
import VpcOperator.Simulation.Session
import VpcOperator.Simulation.Pipeline
import VpcOperator.Proofs.Controller.Rounds

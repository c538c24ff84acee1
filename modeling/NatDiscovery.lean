import NatDiscovery.Config.Decode
import NatDiscovery.Config.Encode
import NatDiscovery.Main
import NatDiscovery.Proofs.Budget
import NatDiscovery.Proofs.Candidates
import NatDiscovery.Proofs.Command
import NatDiscovery.Proofs.Config.Spelling
import NatDiscovery.Proofs.Course
import NatDiscovery.Proofs.Deadline
import NatDiscovery.Proofs.Isolation
import NatDiscovery.Proofs.OffPath
import NatDiscovery.Proofs.PortRange
import NatDiscovery.Proofs.PortWalk
import NatDiscovery.Proofs.Preconditions
import NatDiscovery.Proofs.ServerName
import NatDiscovery.Proofs.Session.Counts
import NatDiscovery.Proofs.Stun.Encoding
import NatDiscovery.Proofs.Table.History

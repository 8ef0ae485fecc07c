import InstancePool.Text.Blank
import InstancePool.Text.Lower
import InstancePool.Address
import InstancePool.Fault
import InstancePool.Credential
import InstancePool.Request
import InstancePool.Allocation
import InstancePool.Upkeep
import InstancePool.Configuration
import InstancePool.Simulation.World
import InstancePool.Simulation.Probes
import InstancePool.Proofs.Discipline
import InstancePool.Proofs.Tending
import InstancePool.Proofs.Entries
import InstancePool.Proofs.Interleaving
import InstancePool.Proofs.Ledger
import InstancePool.Proofs.Custody
import InstancePool.Proofs.Moves
import InstancePool.Proofs.Exclusion
import InstancePool.Proofs.Commits
import InstancePool.Proofs.Traces
import InstancePool.Proofs.Calls
import InstancePool.Proofs.Building
import InstancePool.Proofs.Courses
import InstancePool.Proofs.Protocols
import InstancePool.Proofs.Restoring
import InstancePool.Proofs.Halting
import InstancePool.Proofs.Stopping
import InstancePool.Proofs.Serving
import InstancePool.Proofs.Advice
import InstancePool.Proofs.Sequence
import InstancePool.Proofs.Care
import InstancePool.Proofs.Footprint
import InstancePool.Proofs.Orders
import InstancePool.Proofs.Rendering
import InstancePool.Proofs.Handover
import InstancePool.Proofs.Ensuring
import InstancePool.Proofs.Machines
import InstancePool.Proofs.Cycle
import InstancePool.Proofs.Budget
import InstancePool.Proofs.Polling
import InstancePool.Proofs.Cancelling
import InstancePool.Proofs.Observing
import InstancePool.Proofs.Upgrading
import InstancePool.Proofs.Journal
import InstancePool.Proofs.Policy
import InstancePool.Proofs.Conveying
import InstancePool.Proofs.Cutting
import InstancePool.Proofs.Secrecy
import InstancePool.Proofs.Aliases
import InstancePool.Proofs.Numerals
import InstancePool.Proofs.Reading
import InstancePool.Proofs.Addressing
import InstancePool.Proofs.Faithful
import InstancePool.Proofs.Formats
import InstancePool.Proofs.KeyOrder
import InstancePool.Proofs.Swaps
import InstancePool.Proofs.Equipping
import InstancePool.Proofs.Rebooting
import InstancePool.Proofs.Releasing
import InstancePool.Proofs.Recording
import InstancePool.Proofs.Sharing
import InstancePool.Proofs.Networking
import InstancePool.Proofs.Configuring
import InstancePool.Proofs.Handling
import InstancePool.Proofs.Transacting

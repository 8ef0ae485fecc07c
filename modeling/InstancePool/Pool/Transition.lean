import InstancePool.Services

/-!
# Changes of state

The registry is shared with other writers, so a state is only ever changed from the one it is believed
to be in, and the registry refuses if it is in another. This file holds the changes that workflows
make: a claim, its two ends, and the release.
-/

namespace InstancePool.Pool

/-- Changes the state of an entry from one to another, if the one may follow the other and the entry
    still is in the former. -/
def transition (cid : UInt64) (before after : State) : Workflow Unit :=
  if before.allows after then
    (Workflow.registry (.updateState cid (some before) after)).inContext
      s!"updating pool entry {cid} from {before} to {after}"
  else
    .fail (.invalid s!"pool entry {cid}: transition {before} -> {after} is not allowed")

/-- Takes a free entry, so that nobody else does. -/
def claim (cid : UInt64) : Workflow Unit := transition cid .free .provisioning

/-- Ends a claim that led to an instance in use. -/
def markUsing (cid : UInt64) : Workflow Unit := transition cid .provisioning .using

/-- Ends a claim that led to nothing. -/
def rollback (cid : UInt64) : Workflow Unit := transition cid .provisioning .free

/-- Makes an entry free, whatever state it is in. A free one is left alone. -/
def release (entry : Entry) : Workflow Unit :=
  if entry.state = .free then return () else transition entry.cid entry.state .free

end InstancePool.Pool

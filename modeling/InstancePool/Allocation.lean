import InstancePool.Pool.Transition
import InstancePool.Provision
import InstancePool.Reclaim

/-!
# Allocation

How a request gets its instance: from the address it insists on, from the pool if a free entry fits,
and by building a new one otherwise.

Who else is after the same entry is settled by the claim alone. Whatever happens after it, exactly one
more write ends the claim: the entry is in use, or free again (`Allocation.reuse`).
-/

namespace InstancePool.Allocation

/-- Builds a new instance and enters it into the pool as one in use. -/
def provision (site : Site) (request : Request) (selected : Networks) : Workflow Instance := do
  let i ← Provision.run site request selected
  (Workflow.registry (.addEntry (.ofInstance i .using))).inContext
    s!"registering instance {i.cid} in pool"
  return i

/-- Reinstalls the instance of a pool entry, under a claim. A claim that somebody else won may be
    tried again. -/
def reuse (site : Site) (cid : UInt64) (request : Request) (selected : Networks) :
    Workflow Instance := do
  (Pool.claim cid).mapFault fun fault => fault.retryable (fault.kind = .poolConflict)
  match ← (Reclaim.run site (.cid cid) request selected).attempt with
  | .ok i =>
    Pool.markUsing cid
    return i
  | .error fault =>
    let fault := fault.inContext s!"reusing pooled instance {cid}"
    match ← (Pool.rollback cid).attempt with
    | .ok () => .fail fault
    | .error compensation => .fail (.compensationFailed fault compensation)

/-- Finds or builds the instance for a request. -/
def run (site : Site) (request : Request) : Workflow Instance := do
  let selected ← (Program.ofExcept (Networks.select request.networks)).inContext
    s!"validating networks for agent {request.agentId}"
  match selected.fixedIp with
  | some ip =>
    (Reclaim.run site (.ip ip) request selected).inContext s!"reusing instance at {ip}"
  | none =>
    let candidates ← (Workflow.registry (.findEntries (request.filter selected))).inContext
      "querying pool for free instances"
    match candidates with
    | [] => provision site request selected
    | entry :: _ => reuse site entry.cid request selected

end InstancePool.Allocation

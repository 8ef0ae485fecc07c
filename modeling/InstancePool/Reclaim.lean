import InstancePool.Agent.Bootstrap

/-!
# Reclaiming

An instance that exists is used again: its system is reinstalled from the image of the request, and
then its agent is brought up like that of a new one. The host alias is recorded for the instance as it
was found, the settings are pushed for the instance as it is after the reload.
-/

namespace InstancePool.Reclaim

/-- How the instance is known. -/
inductive Target where
  | cid (cid : UInt64)
  | ip (ip : Address)
deriving DecidableEq

/-- Looks the instance up. -/
def locate : Target → Workflow Instance
  | .cid cid => (Workflow.cloud (.getInstance cid)).inContext s!"looking up instance {cid}"
  | .ip ip =>
    if ip.isPrivate then
      (Workflow.cloud (.instanceByPrivateIp ip)).inContext
        s!"looking up instance by private ip {ip}"
    else
      (Workflow.cloud (.instanceByPublicIp ip)).inContext s!"looking up instance by public ip {ip}"

/-- Reinstalls the system of an instance, and waits until that has happened. -/
def reload (waits : Waits) (cid : UInt64) (stemcell : Stemcell) : Workflow Unit := do
  (Workflow.cloud (.reloadOs cid stemcell)).inContext
    s!"reloading OS of instance {cid} from stemcell {stemcell.id}"
  (Condition.busy.await waits cid).inContext "waiting for os reload to start"
  (Condition.idle.awaitWithin waits waits.reloadTimeout cid).inContext
    "waiting for os reload to finish"

/-- Reinstalls an instance and brings its agent up. -/
def run (site : Site) (target : Target) (request : Request) (selected : Networks) :
    Workflow Instance := do
  let found ← locate target
  let cid := found.cid
  reload site.waits cid request.stemcell
  Agent.settle site.waits cid request.shape.ephemeralDiskSizeGb
  let endpoints ← Agent.resolveEndpoints site.agent found request.externalIp
  let refreshed ← (Workflow.cloud (.getInstance cid)).inContext
    s!"refreshing instance {cid} after os reload"
  let _ ← Agent.configure site.agent refreshed request selected endpoints
  Agent.applyCredential site.agent cid
  return refreshed

end InstancePool.Reclaim

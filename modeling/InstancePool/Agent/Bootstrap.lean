import InstancePool.Agent.Endpoints
import InstancePool.Disk

/-!
# Bringing up an agent

What is done to an instance that was just created and to one that was just reinstalled: wait until it
is settled, find out where its agent is reached, push the settings, and set the login.
-/

namespace InstancePool

/-- What holds for every workflow: how it waits, and what it tells the agents. -/
structure Site where
  waits : Waits := {}
  agent : Agent.Options := {}

namespace Agent

/-- Waits until an instance is usable. With an extra disk, its upgrade covers that. -/
def settle (waits : Waits) (cid : UInt64) (diskSizeGb : Option UInt64) : Workflow Unit :=
  match diskSizeGb.filter (0 < ·) with
  | some sizeGb =>
    (Disk.attach waits cid sizeGb).inContext s!"attaching ephemeral disk to instance {cid}"
  | none =>
    ((Condition.completed [Transaction.serviceSetup]).await waits cid).inContext
      s!"waiting for instance {cid} setup"

/-- The address at which an instance is reached. An outer one is taken as it is; the instance's own
    is recorded under its host name. -/
def resolveAddress (i : Instance) (externalIp : Option Address) : Workflow Address :=
  match externalIp, i.address? with
  | some ip, _ => return ip
  | none, some ip => do
    (Workflow.recordAlias i.fqdn ip).inContext s!"recording host alias for instance {i.cid}"
    return ip
  | none, none => .fail (.cloud s!"instance {i.cid} has no IP address")

/-- Where the agent of an instance is reached. -/
def resolveEndpoints (options : Options) (i : Instance) (externalIp : Option Address) :
    Workflow Endpoints := do
  .ofExcept (Endpoints.forAddress options (← resolveAddress i externalIp))

/-- Pushes the settings of an instance's agent, and answers them. -/
def configure (options : Options) (i : Instance) (request : Request) (selected : Networks)
    (endpoints : Endpoints) : Workflow Settings := do
  let settings := Agent.settings i request selected endpoints options
  (Workflow.cloud (.pushSettings i.cid settings)).inContext
    s!"pushing agent settings to instance {i.cid}"
  return settings

/-- Sets the login on an instance, if there is one. A login that is not allowed is never sent. -/
def applyCredential (options : Options) (cid : UInt64) : Workflow Unit :=
  match options.credential with
  | none => return ()
  | some credential => do
    .ofExcept credential.validate
    (Workflow.cloud (.setCredential cid credential)).inContext
      s!"setting credential on instance {cid}"

end Agent

end InstancePool

import InstancePool.Agent.Bootstrap

/-!
# Provisioning

A new instance is built in steps, and each of them may fail. The fault then says which steps were
completed before it, so that an instance that was created, and costs money, is never lost from sight.

* `Provision.Step`, `Provision.describe`: the steps and the text of those completed;
* `Provision.abandon`: what becomes of a fault. Where nothing was created, nothing was left behind,
  and the caller may try again;
* `Provision.run`: the steps.
-/

namespace InstancePool.Provision

/-! ## 1. Steps -/

/-- A completed step. -/
inductive Step where
  | templateRendered
  | instanceCreated (cid : UInt64)
  | instanceSettled
  | endpointsResolved
  | agentConfigured
  | credentialApplied
deriving DecidableEq, Repr

/-- The text of a step. -/
def Step.text : Step → String
  | templateRendered => "template rendered"
  | instanceCreated cid => s!"instance {cid} created"
  | instanceSettled => "instance settled"
  | endpointsResolved => "endpoints resolved"
  | agentConfigured => "agent configured"
  | credentialApplied => "credential applied"

/-- Whether a step leaves an instance behind. -/
def Step.creates : Step → Bool
  | instanceCreated _ => true
  | _ => false

/-- Whether the steps left an instance behind. -/
def created (steps : List Step) : Bool := steps.any Step.creates

/-- The text of the steps, in the order in which they were completed. -/
def describe (steps : List Step) : String :=
  if steps.isEmpty then "none" else ", ".intercalate (steps.map Step.text)

/-! ## 2. The workflow -/

/-- What becomes of a fault after the given steps. -/
def abandon (agentId : String) (steps : List Step) (f : Fault) : Fault :=
  let f :=
    if !created steps && f.kind = .cloud then (f.withKind .creationFailed).retryable true else f
  let completed := describe steps
  f.inContext s!"provisioning instance for agent {agentId} (completed steps: {completed})"

/-- Creates an instance and brings its agent up. -/
def run (site : Site) (request : Request) (selected : Networks) : Workflow Instance := do
  let after (steps : List Step) {α : Type} (p : Workflow α) : Workflow α :=
    p.mapFault (abandon request.agentId steps)
  let hostname := Request.hostname request.shape.hostnamePrefix (← Workflow.mark)
  let steps := [Step.templateRendered]
  let receipt ← after steps <|
    (Workflow.cloud (.createInstance (request.template selected hostname))).inContext
      s!"creating instance {hostname}"
  let cid := receipt.cid
  let steps := steps ++ [.instanceCreated cid]
  after steps <| Agent.settle site.waits cid request.shape.ephemeralDiskSizeGb
  let steps := steps ++ [.instanceSettled]
  -- The receipt has neither addresses nor VLANs.
  let i ← after steps <|
    (Workflow.cloud (.getInstance cid)).inContext s!"refreshing instance {cid} after create"
  let endpoints ← after steps <| Agent.resolveEndpoints site.agent i request.externalIp
  let steps := steps ++ [.endpointsResolved]
  let _ ← after steps <| Agent.configure site.agent i request selected endpoints
  let steps := steps ++ [.agentConfigured]
  after steps <| Agent.applyCredential site.agent cid
  return i

end InstancePool.Provision

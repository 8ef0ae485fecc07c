import InstancePool.Proofs.Traces
import InstancePool.Simulation.World

/-!
# Calls in a world

In a world a call is journaled, and then takes what is scripted for its operation. What holds of a call
whatever is scripted is shown here once.

* `http_keeps_view`: requests over a transport touch the transport and nothing else;
* `serve_keeps_pace`: a service takes no time by itself;
* `answerCall_unscripted`: a call that nothing is scripted for;
* `answerCall_cases`, `answerCall_passes`: what a script can make of a call, and the time that it takes.
-/

namespace InstancePool.Simulation

/-- What is left of a script is part of it, and what it holds for an operation was found in it. -/
theorem Script.next?_mem {op : Operation} {script rest : Script} {item : Scripted op.Result}
    (found : script.next? op = some (item, rest)) :
    (∃ p ∈ script, p.1 = op) ∧ ∀ p ∈ rest, p ∈ script := by
  induction script generalizing rest with
  | nil => cases found
  | cons first later ih =>
    obtain ⟨other, i⟩ := first
    unfold Script.next? at found
    split at found
    · rename_i same
      cases found
      exact ⟨⟨_, List.mem_cons_self, same⟩, fun p hp => List.mem_cons_of_mem _ hp⟩
    · obtain ⟨⟨i', rest'⟩, found', same⟩ := Option.map_eq_some_iff.mp found
      cases same
      obtain ⟨⟨p, hp, same⟩, others⟩ := ih found'
      exact ⟨⟨p, List.mem_cons_of_mem _ hp, same⟩, List.forall_mem_cons.mpr
        ⟨List.mem_cons_self, fun p hp => List.mem_cons_of_mem _ (others p hp)⟩⟩

namespace World

/-- **Requests over a transport change the transport**, and which of them arrived. -/
theorem http_keeps_view {V α : Type} {view : World → V}
    (apart : ∀ w transport requests, view { w with transport, requests } = view w)
    (p : Program Http α) (w : World) : view ((p.run answerHttp).run w).2 = view w := by
  have ran : (p.run answerHttp).run w = _ := Program.run_eq_trace (I := Http)
  refine (congrArg (fun end? => view end?.2) ran).trans (Program.trace_keeps fun e he => ?_)
  obtain ⟨q, w', rfl⟩ := Program.exchanges_asked e he
  cases q with
  | send request => exact apart w' _ _
  | timeOfDay => rfl

/-- What a world does not lose by serving a call: its clock, and what is scripted. -/
def pace (w : World) : Clock × Script := (w.clock, w.script)

/-- A service takes no time. -/
theorem serve_keeps_pace (wiring : Wiring) (call : Call) (w : World) :
    (serve wiring call w).2.pace = w.pace := by
  cases call with
  | cloud call =>
    unfold serve
    cases wiring.cloud with
    | account account => exact http_keeps_view (fun _ _ _ => rfl) _ w
    | memory => rfl
  | registry call =>
    unfold serve
    cases wiring.registry with
    | url base => exact http_keeps_view (fun _ _ _ => rfl) _ w
    | memory => rfl
  | hostAlias hostname ip =>
    unfold serve
    cases wiring.aliases with
    | file path =>
      have ran : ((HostsFile.upsert path hostname ip).run answerFiles).run w = _ :=
        Program.run_eq_trace
      refine (congrArg (fun end? => pace end?.2) ran).trans (Program.trace_keeps fun e he => ?_)
      obtain ⟨q, w', rfl⟩ := Program.exchanges_asked e he
      rfl
    | memory => rfl

/-- Where nothing is scripted for a call it is journaled and served. -/
theorem answerCall_unscripted (wiring : Wiring) {call : Call} {w : World}
    (unscripted : w.script.next? call.operation = none) :
    answerCall wiring call w = serve wiring call { w with journal := (w.clock.time, call) :: w.journal } := by
  unfold answerCall
  simp only [bind, StateT.bind, get, getThe, MonadStateOf.get, StateT.get, pure, unscripted]
  rfl

/-- The services are as they were, and nothing was added to the script. -/
structure Journaled (w w₁ : World) : Prop where
  cloud : w₁.cloud = w.cloud
  registry : w₁.registry = w.registry
  aliases : w₁.aliases = w.aliases
  script : ∀ p ∈ w₁.script, p ∈ w.script

/-- **What a script makes of a call.** It is journaled, and what is scripted for it takes its time. Then
    it is not served, and fails or is answered as scripted, or it is served, and its answer may be lost. -/
theorem answerCall_cases (wiring : Wiring) (call : Call) (w : World) :
    ∃ w₁ : World, Journaled w w₁ ∧
      ((answerCall wiring call w).2 = w₁ ∧
          ((∃ f, (answerCall wiring call w).1 = .error f) ∨ ∃ p ∈ w.script, p.1 = call.operation) ∨
        (answerCall wiring call w).2 = (serve wiring call w₁).2 ∧
          ((∃ f, (answerCall wiring call w).1 = .error f) ∨
            (answerCall wiring call w).1 = (serve wiring call w₁).1)) := by
  unfold answerCall
  simp only [bind, StateT.bind, get, getThe, MonadStateOf.get, StateT.get, pure]
  split
  · exact ⟨{ w with journal := (w.clock.time, call) :: w.journal }, ⟨rfl, rfl, rfl, fun _ hp => hp⟩,
      .inr ⟨rfl, .inr rfl⟩⟩
  · rename_i item script found
    obtain ⟨scripted, part⟩ := Script.next?_mem found
    refine ⟨{ w with
      journal := (w.clock.time, call) :: w.journal
      script
      clock := w.clock.pass item.takes }, ⟨rfl, rfl, rfl, part⟩, ?_⟩
    cases outcome : item.outcome with
    | answers value => exact .inl ⟨rfl, .inr scripted⟩
    | fails f => exact .inl ⟨rfl, .inl ⟨f, rfl⟩⟩
    | failsAfter f => exact .inr ⟨rfl, .inl ⟨f, rfl⟩⟩
    | delegates => exact .inr ⟨rfl, .inr rfl⟩

/-- A call takes the time that is scripted for it, and none if nothing is. -/
theorem answerCall_passes (wiring : Wiring) (call : Call) (w : World) :
    ∃ span, (answerCall wiring call w).2.clock = w.clock.pass span := by
  have served : ∀ w' : World, (serve wiring call w').2.clock = w'.clock := fun w' =>
    congrArg Prod.fst (serve_keeps_pace wiring call w')
  unfold answerCall
  simp only [bind, StateT.bind, get, getThe, MonadStateOf.get, StateT.get, pure]
  split
  · exact ⟨0, served _⟩
  · rename_i item script found
    refine ⟨item.takes, ?_⟩
    cases outcome : item.outcome with
    | answers value => rfl
    | fails f => rfl
    | failsAfter f => exact served _
    | delegates => exact served _

end World

end InstancePool.Simulation

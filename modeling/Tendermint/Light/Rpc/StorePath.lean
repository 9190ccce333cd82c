import Tendermint.Strings

/-! The store path of a verified ABCI query and its parser.

`parseQueryStorePath` (light/rpc/client.go) reads `/store/<storeName>/key`
with `strings.SplitN(path[1:], "/", 3)`, so the last piece is whatever follows
the second slash. The grammar it accepts is `storePath` over names without a
slash, and every rejection carries one of two messages.
-/

set_option autoImplicit false

namespace Tendermint.Light.Rpc

open Strings

def errStartSlash : GoError := GoError.new "expected path to start with /"

def errStoreFormat : GoError := GoError.new "expected format like /store/<storeName>/key"

def parseQueryStorePath (path : GoString) : Except GoError GoString :=
  if !hasPrefix path (lit "/") then .error errStartSlash
  else
    match splitN (path.drop 1) (lit "/") 3 with
    | [first, storeName, last] =>
      if first ≠ lit "store" then .error errStoreFormat
      else if last ≠ lit "key" then .error errStoreFormat
      else .ok storeName
    | _ => .error errStoreFormat

/-- The path `/store/<storeName>/key`. -/
def storePath (storeName : GoString) : GoString := lit "/store/" ++ storeName ++ lit "/key"

theorem storePath_eq (storeName : GoString) :
    storePath storeName =
      '/'.toUInt8 :: (lit "store" ++ '/'.toUInt8 :: (storeName ++ '/'.toUInt8 :: lit "key")) := by
  have front : lit "/store/" = '/'.toUInt8 :: (lit "store" ++ ['/'.toUInt8]) := by decide
  have back : lit "/key" = '/'.toUInt8 :: lit "key" := by decide
  simp [storePath, front, back]

theorem hasPrefix_slash {path : GoString} :
    hasPrefix path (lit "/") = true ↔ ∃ rest, path = '/'.toUInt8 :: rest := by
  have slash : lit "/" = ['/'.toUInt8] := by decide
  cases path with
  | nil => simp [hasPrefix, slash, List.isPrefixOf]
  | cons b rest => simpa [hasPrefix, slash, List.isPrefixOf] using eq_comm

/-- What an accepted path is, one step before the grammar: a slash, then three
pieces under `SplitN`, the outer ones `store` and `key`. -/
theorem parseQueryStorePath_eq_ok {path storeName : GoString} :
    parseQueryStorePath path = .ok storeName ↔
      ∃ rest, path = '/'.toUInt8 :: rest ∧
        splitN rest (lit "/") 3 = [lit "store", storeName, lit "key"] := by
  unfold parseQueryStorePath
  by_cases slash : hasPrefix path (lit "/") = true
  · obtain ⟨rest, rfl⟩ := hasPrefix_slash.mp slash
    simp only [slash, Bool.not_true, Bool.false_eq_true, if_false, List.drop_succ_cons,
      List.drop_zero, List.cons.injEq, true_and, exists_eq_left']
    split
    · rename_i first name last pieces
      rw [pieces]
      by_cases isStore : first = lit "store"
      · by_cases isKey : last = lit "key"
        · simp [isStore, isKey]
        · simp [isKey]
      · simp [isStore]
    · rename_i notThree
      exact ⟨fun h => (nomatch h), fun same => (notThree _ _ _ same).elim⟩
  · refine ⟨fun h => by simp [slash] at h, fun ⟨rest, same, _⟩ => ?_⟩
    exact (slash (hasPrefix_slash.mpr ⟨rest, same⟩)).elim

/-- The paths the parser accepts are the store paths over slash-free names. -/
theorem parseQueryStorePath_eq_ok_iff {path storeName : GoString} :
    parseQueryStorePath path = .ok storeName ↔ path = storePath storeName ∧ '/'.toUInt8 ∉ storeName := by
  have slash : lit "/" = ['/'.toUInt8] := by decide
  rw [parseQueryStorePath_eq_ok, slash, storePath_eq]
  constructor
  · rintro ⟨rest, rfl, pieces⟩
    obtain ⟨rfl, -, absent⟩ := splitN_three_iff.mp pieces
    exact ⟨rfl, absent⟩
  · rintro ⟨rfl, absent⟩
    exact ⟨_, rfl, splitN_three_iff.mpr ⟨rfl, by decide, absent⟩⟩

/-- The parser accepts exactly `/store/<storeName>/key` with a slash-free
`storeName`, returning that name, and rejects every other path. -/
theorem parseQueryStorePath_iff (path : GoString) :
    (∀ storeName, parseQueryStorePath path = .ok storeName ↔
        path = lit "/store/" ++ storeName ++ lit "/key" ∧ '/'.toUInt8 ∉ storeName) ∧
      ((∀ storeName, ¬(path = lit "/store/" ++ storeName ++ lit "/key" ∧ '/'.toUInt8 ∉ storeName)) →
        ∃ err, parseQueryStorePath path = .error err) := by
  refine ⟨fun _ => parseQueryStorePath_eq_ok_iff, fun rejected => ?_⟩
  cases parsed : parseQueryStorePath path with
  | error err => exact ⟨err, rfl⟩
  | ok storeName => exact (rejected storeName (parseQueryStorePath_eq_ok_iff.mp parsed)).elim

end Tendermint.Light.Rpc

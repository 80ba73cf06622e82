/-
The admin-password store (`PasswordStoreLib.c`).

The record lives in one variable. Every entry point reads it, and the entry
points that find it missing create it as the record of no password. Reads can
fail; the library functions then hand back no data, size zero and attributes
zero, which is what the entry points look at next.

A run is a list of calls, each with the outcomes of the variable services behind
it; next to the variable the state keeps the last record a client set.
-/
import MuRockchip.Password.Policy

namespace MuRockchip.Password

open MuRockchip.Base

/-! ### The variable -/

/-- `PASSWORD_STORE_ADMIN_VARIABLE_ATTRS`: non-volatile, boot services only. -/
def adminVariableAttrs : UInt32 := 0x3

/-- The stored variable: its data and attributes. -/
structure Variable where
  data : List UInt8
  attributes : UInt32
  deriving DecidableEq, Repr

/-- The variable under the admin password's name and namespace. -/
abbrev VariableStore := Option Variable

/-- What `GetVariable3` hands back. -/
structure ReadResult where
  status : EfiStatus
  data : Option (List UInt8)
  size : Nat
  attributes : UInt32
  deriving DecidableEq, Repr

/-- `GetVariable3`, and `GetVariable2` for its first three results. A read that
fails returns no data, size zero and attributes zero. -/
def getVariable3 (store : VariableStore) (failure : Option ErrorStatus) : ReadResult :=
  match failure, store with
  | some error, _ => ⟨error.val, none, 0, 0⟩
  | none, none => ⟨EfiStatus.notFound, none, 0, 0⟩
  | none, some stored => ⟨EfiStatus.success, some stored.data, stored.data.length,
      stored.attributes⟩

/-- `PasswordStoreSetPassword`. `write` is the status of `SetVariable`, which
leaves the variable alone when it fails. -/
def passwordStoreSetPassword (store : VariableStore) (value : Option (List UInt8))
    (write : EfiStatus) : EfiStatus × VariableStore :=
  match value with
  | none => (EfiStatus.invalidParameter, store)
  | some record =>
    let status := validatePasswordHash (some record)
    if status.isError then (status, store)
    else if write.isError then (EfiStatus.aborted, store)
    else (write, some ⟨record, adminVariableAttrs⟩)

def passwordStoreIsPasswordSet (store : VariableStore) (read : Option ErrorStatus)
    (write : EfiStatus) : Bool × VariableStore :=
  let result := getVariable3 store read
  if result.status = EfiStatus.notFound ∨ result.size = 0 then
    (false, (passwordStoreSetPassword store (some nullPasswordHash) write).2)
  else
    let record := result.data.getD []
    (!result.status.isError && result.size != nullPasswordHash.length &&
      record.take nullPasswordHash.length != nullPasswordHash, store)

/-- `PasswordStoreAuthenticatePassword`. The first read is the one made by
`PasswordStoreIsPasswordSet`. -/
def passwordStoreAuthenticatePassword (derive : KeyDerivation) (store : VariableStore)
    (password : Option Str16) (read : Option ErrorStatus) (write : EfiStatus)
    (secondRead : Option ErrorStatus) (services : HashServices) : Bool × VariableStore :=
  let (isSet, store) := passwordStoreIsPasswordSet store read write
  if !isSet then (true, store)
  else match password with
    | none => (false, store)
    | some string =>
      if string.chars = [] then (false, store)
      else
        let tempPassword := safeCopyPassword string
        let current := getVariable3 store secondRead
        if current.status.isError then (false, store)
        else match generatePasswordHash derive services current.data (some tempPassword) with
          | .error _ => (false, store)
          | .ok newStore => ((current.data.getD []).take newStore.length == newStore, store)

def passwordStoreInitializeLib (store : VariableStore) (read : Option ErrorStatus)
    (write : EfiStatus) : EfiStatus × VariableStore :=
  let result := getVariable3 store read
  if result.status = EfiStatus.notFound ∨ result.attributes ≠ adminVariableAttrs then
    passwordStoreSetPassword store (some nullPasswordHash) write
  else (result.status, store)

/-! ### Runs -/

/-- One call, with the outcomes of the reads, the write and the hash services it
makes on the way. -/
inductive Call where
  | initializeLib (read : Option ErrorStatus) (write : EfiStatus)
  | isPasswordSet (read : Option ErrorStatus) (write : EfiStatus)
  | authenticate (password : Option Str16) (read : Option ErrorStatus) (write : EfiStatus)
      (secondRead : Option ErrorStatus) (services : HashServices)
  | setPassword (value : Option (List UInt8)) (write : EfiStatus)

/-- The variable, and the last record a client set explicitly. -/
structure StoreState where
  store : VariableStore
  lastSet : List UInt8
  deriving DecidableEq, Repr

def step (derive : KeyDerivation) (state : StoreState) (call : Call) : StoreState :=
  match call with
  | .initializeLib read write =>
    { state with store := (passwordStoreInitializeLib state.store read write).2 }
  | .isPasswordSet read write =>
    { state with store := (passwordStoreIsPasswordSet state.store read write).2 }
  | .authenticate password read write secondRead services =>
    { state with store := (passwordStoreAuthenticatePassword derive state.store password read
        write secondRead services).2 }
  | .setPassword value write =>
    let (status, store) := passwordStoreSetPassword state.store value write
    ⟨store, if status.isError then state.lastSet else value.getD state.lastSet⟩

/-- A store that holds a version 1 record, written by this library. -/
def holding (hash : HashVer1) : StoreState :=
  ⟨some ⟨hash.bytes, adminVariableAttrs⟩, hash.bytes⟩

end MuRockchip.Password

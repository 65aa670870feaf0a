import Telemt.Basic
import Telemt.Foundation.Dict
import Telemt.Handshake.ClientHello

namespace Telemt.Handshake
open Foundation ClientHello

/-!
# User secrets

`users` is the configured map; the order of its rows stands for the iteration order of the hash map.
`sniHash` is the hasher fed with the lowercase bytes of a name.
-/

def accessSecretBytes : Nat := 16

def hexDigit (b : UInt8) : Option UInt8 :=
  if 48 ≤ b ∧ b ≤ 57 then some (b - 48)
  else if 97 ≤ b ∧ b ≤ 102 then some (b - 87)
  else if 65 ≤ b ∧ b ≤ 70 then some (b - 55)
  else none

def hexDecode : Text → Option Bytes
  | [] => some []
  | [_] => none
  | high :: low :: rest => do
      let high ← hexDigit high
      let low ← hexDigit low
      let bytes ← hexDecode rest
      return (high * 16 + low) :: bytes

structure UserAuthEntry where
  user : Text
  secret : Bytes

inductive UserAuthError
  | invalidSecret (user : Text) (reason : String)
  | config (message : String)

structure UserAuthSnapshot where
  entries : List UserAuthEntry := []
  byName : Dict Text Nat := ∅
  sniIndex : Dict Nat (List Nat) := ∅
  sniInitialIndex : Dict UInt8 (List Nat) := ∅

namespace UserAuthSnapshot

section
variable (sniHash : Text → Nat)

def sniLookupHash (value : Text) : Nat := sniHash (value.map toAsciiLowercase)

def pushId {κ : Type} [DecidableEq κ] (index : Dict κ (List Nat)) (key : κ) (userId : Nat) :
    Dict κ (List Nat) :=
  index.insert key ((index.lookup key).getD [] ++ [userId])

def addUser (snapshot : UserAuthSnapshot) (user secretHex : Text) :
    Except UserAuthError UserAuthSnapshot :=
  match hexDecode secretHex with
  | none => .error (.invalidSecret user "Must be 32 hex characters")
  | some decoded =>
    if decoded.length ≠ accessSecretBytes then
      .error (.invalidSecret user "Must be 32 hex characters")
    else if 2 ^ 32 ≤ snapshot.entries.length then
      .error (.config "Too many users for runtime auth snapshot")
    else
      let userId := snapshot.entries.length
      .ok {
        entries := snapshot.entries ++ [⟨user, decoded⟩]
        byName := snapshot.byName.insert user userId
        sniIndex := pushId snapshot.sniIndex (sniLookupHash sniHash user) userId
        sniInitialIndex :=
          match user.head? with
          | none => snapshot.sniInitialIndex
          | some initial =>
            pushId snapshot.sniInitialIndex (toAsciiLowercase initial) userId }

def fromUsers (users : Dict Text Text) : Except UserAuthError UserAuthSnapshot :=
  users.entries.foldlM (fun snapshot row => snapshot.addUser sniHash row.1 row.2) {}

def sniCandidates (snapshot : UserAuthSnapshot) (sni : Text) : Option (List Nat) :=
  snapshot.sniIndex.lookup (sniLookupHash sniHash sni)

end

def userIdByName (snapshot : UserAuthSnapshot) (user : Text) : Option Nat :=
  snapshot.byName.lookup user

def entryById (snapshot : UserAuthSnapshot) (userId : Nat) : Option UserAuthEntry :=
  snapshot.entries[userId]?

def sniInitialCandidates (snapshot : UserAuthSnapshot) (sni : Text) : Option (List Nat) :=
  match sni.head? with
  | none => none
  | some initial => snapshot.sniInitialIndex.lookup (toAsciiLowercase initial)

theorem entryById_eq_none {snapshot : UserAuthSnapshot} {userId : Nat} :
    snapshot.entryById userId = none ↔ snapshot.entries.length ≤ userId :=
  List.getElem?_eq_none_iff

theorem lt_of_entryById {snapshot : UserAuthSnapshot} {userId : Nat} {entry : UserAuthEntry}
    (found : snapshot.entryById userId = some entry) : userId < snapshot.entries.length :=
  (List.getElem?_eq_some_iff.mp found).1

end UserAuthSnapshot

end Telemt.Handshake

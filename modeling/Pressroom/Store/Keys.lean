import Pressroom.Store.Basic

/-!
The table of API keys. No two keys have the same digest, not even after one of them is deleted; any
number of keys may have none.
-/
namespace Pressroom

/-- The parts of a key. -/
structure KeyParts where
  digest : Option Text
  owner : Option Text
  expires : Option Int

namespace Store

def bindKey (n : KeyParts) : StoreResult KeyData := do
  let digest ← bindOption n.digest
  let owner ← bindOption n.owner
  let expires ← bindWholeOption n.expires
  return ⟨digest, owner, expires⟩

/-- Whether a key, live or deleted, has a digest already. -/
def digestTaken (s : Store) : Option String → Bool
  | none => false
  | some digest => s.keys.any fun r => r.data.digest == some digest

/-- Adds a key under a new id. -/
def createKey (s : Store) (id : String) (now : Instant) (n : KeyParts) :
    StoreResult (Store × ApiKey) := do
  s.need "api_keys"
  let data ← bindKey n
  if (s.keys.any fun r => r.id == id) || s.digestTaken data.digest then .error .conflict
  else .ok ({ s with keys := s.keys ++ [.newRow id data now] }, .newItem id data now)

/-- The key with an id. -/
def key? (s : Store) (id : Text) (deletedToo : Bool) : StoreResult (Option ApiKey) := do
  s.need "api_keys"
  let id ← bind id
  readRow? (findRow? s.keys deletedToo id)

/-- The live key with a digest. -/
def keyByDigest? (s : Store) (digest : Option Text) : StoreResult (Option ApiKey) := do
  s.need "api_keys"
  let digest ← bindOption digest
  readRow? ((rowsFor s.keys false).find? fun r => digest.isSome && r.data.digest == digest)

/-- The keys, newest first. -/
def listKeys (s : Store) (deletedToo : Bool) : StoreResult (List ApiKey) := do
  s.need "api_keys"
  readRows (newestFirst (rowsFor s.keys deletedToo))

/-- Whether a key belongs to an address in any ASCII case. -/
def ownedBy (email : Option String) (r : Row KeyData) : Bool :=
  match r.data.owner, email with
  | some owner, some email => noCaseSame owner email
  | _, _ => false

/-- The live keys of an address in any ASCII case, newest first. -/
def listKeysOf (s : Store) (email : Option Text) : StoreResult (List ApiKey) := do
  s.need "api_keys"
  let email ← bindOption email
  readRows (newestFirst ((rowsFor s.keys false).filter (ownedBy email)))

/-- Deletes a live key, and says whether there was one. -/
def deleteKey (s : Store) (id : Text) (now : Instant) : StoreResult (Store × Bool) := do
  s.need "api_keys"
  let id ← bind id
  match findRow? s.keys false id with
  | none => return (s, false)
  | some _ => return ({ s with keys := reviseRow s.keys id (softDeleted now) }, true)

end Store

end Pressroom

import Pressroom.Proofs.Service.Lifecycle

/-!
What becomes of the token of a key that has been deleted. There is an operation that brings back a
user and one that brings back a post, but none for keys; so the row of the key stays as its deletion
left it, and as long as it is there no other row can take its digest. No live key is ever found for
the token again.
-/
namespace Pressroom

namespace Store

/-- The key of a token has been deleted. -/
def Revoked (s : Store) (token : String) : Prop :=
  ∃ r ∈ s.keys, r.isLive = false ∧ r.data.digest = some (Account.tokenDigest token)

instance (s : Store) (token : String) : Decidable (s.Revoked token) :=
  inferInstanceAs (Decidable (∃ r ∈ s.keys, _))

/-- The digests of the keys, live and deleted. -/
def keyDigests (s : Store) : List String := s.keys.filterMap fun r => r.data.digest

/-- No digest is there twice. -/
theorem Sound.digests_nodup {s : Store} (hs : s.Sound) : s.keyDigests.Nodup := by
  rw [keyDigests, List.Nodup, List.pairwise_filterMap]
  have hrows : s.keys.Pairwise (· ≠ ·) := hs.keys.ids.of_map _
  refine hrows.imp_of_mem ?_
  rintro a b ha hb hne d hda d' hdb rfl
  exact hne (hs.digests a ha b hb d hda hdb)

end Store

namespace Account

open Store

/-- The token of a deleted key is not accepted. -/
theorem resolve_revoked {s : Store} (hs : s.Sound) {token : String} (h : s.Revoked token)
    (reached : Int → Bool) : resolve s token reached = .ok (.error .invalid) := by
  obtain ⟨r, hr, hgone, hdigest⟩ := h
  rw [resolve]
  split
  · rfl
  · rcases hs.keyByDigest? (tokenDigest token) with ⟨hnone, -⟩ | ⟨key, -, x, hx, hlive, hxdigest, -⟩
    · rw [hnone]
    · -- A live key with this digest would be the deleted one.
      have hsame : x = r := hs.digests x hx r hr _ hxdigest hdigest
      rw [hsame, hgone] at hlive
      cases hlive

end Account

namespace Service

open Store

variable {s t : Service}

/-- No operation brings a key back. -/
theorem not_broughtBack_key {r : Row KeyData} : ¬ BroughtBack s t .apiKey r := by
  rintro ⟨u, u', now, turn, -, -, -, -, hkind, hrestores, -⟩
  cases turn <;> cases hkind
  cases hrestores

/-- The key of a token stays deleted. -/
theorem Reaches.revoked (h : s.Reaches t) (hs : s.Sound) {token : String}
    (hrevoked : s.store.Revoked token) : t.store.Revoked token := by
  obtain ⟨r, hr, hgone, hdigest⟩ := hrevoked
  rcases h.rests (k := .apiKey) hs hr hgone with hstill | hback
  · exact ⟨r, hstill, hgone, hdigest⟩
  · exact absurd hback not_broughtBack_key

/-- In every state that a service gets into no two keys have one digest, and the token of a key that
has been deleted is refused as invalid from then on, whatever happens and whatever the time is. -/
theorem revoked_for_good {policy : Policy} {settings : Settings} {platform : String}
    {begin : Instant} {first : Service} (hbegin : InEra begin)
    (hstart : start policy settings platform begin = .ok first) (hreach : first.Reaches s) :
    s.store.keyDigests.Nodup ∧ ∀ token, s.store.Revoked token → ∀ later, s.Reaches later →
      ∀ reached, Account.resolve later.store token reached = .ok (.error .invalid) := by
  have hs : s.Sound := hreach.sound (start_sound hbegin hstart)
  refine ⟨hs.store.digests_nodup, ?_⟩
  intro token hrevoked later hlater reached
  exact Account.resolve_revoked (hlater.sound hs).store (hlater.revoked hs hrevoked) reached

/-! ### A key that is issued, deleted and asked for again -/

/-- A key is issued for the first administrator. -/
def withKey (first : Service) : Service :=
  ((Call.issueKey (some (Text.ofString Settings.standard.adminEmail)) none).perform first 0).1

/-- It is deleted. -/
def withoutKey (first : Service) : Service :=
  ((Call.deleteKey (Text.ofString (Fresh.idText 2))).perform first.withKey 1).1

/-- Another key is sent for the same digest. -/
def withKeyAgain (first : Service) : Service :=
  ((Call.createKey ⟨some (Text.ofString (Account.tokenDigest (Fresh.tokenText 1))),
    some (Text.ofString Settings.standard.adminEmail), none⟩).perform first.withoutKey 2).1

/-- The token is accepted before its key is deleted, and never afterwards. -/
theorem revoked_for_good_seed :
    ∃ first, start (.ofProfile .testing .standard) .standard "" 0 = .ok first ∧
      ((Account.resolve first.withKey.store (Fresh.tokenText 1)
        fun _ => false).toOption.bind Except.toOption).isSome = true ∧
      first.withoutKey.store.Revoked (Fresh.tokenText 1) ∧
      first.withoutKey.store.keyDigests.Nodup ∧
      Account.resolve first.withKeyAgain.store (Fresh.tokenText 1) (fun _ => false)
        = .ok (.error .invalid) := by
  obtain ⟨first, hstart, haccepted, hrevoked⟩ :
      ∃ first, start (.ofProfile .testing .standard) .standard "" 0 = .ok first ∧
        ((Account.resolve first.withKey.store (Fresh.tokenText 1)
          fun _ => false).toOption.bind Except.toOption).isSome = true ∧
        first.withoutKey.store.Revoked (Fresh.tokenText 1) :=
    ⟨_, rfl, by decide +kernel, by decide +kernel⟩
  have hreach : first.Reaches first.withoutKey :=
    .tail (.single (.call 0 _ inEra_zero rfl)) (.call 1 _ (by rw [InEra]; decide) rfl)
  have hagain : first.withoutKey.Step first.withKeyAgain :=
    .call 2 _ (by rw [InEra]; decide) rfl
  obtain ⟨hdigests, hinvalid⟩ := revoked_for_good inEra_zero hstart hreach
  exact ⟨first, hstart, haccepted, hrevoked, hdigests,
    hinvalid _ hrevoked _ (.single hagain) _⟩

end Service

end Pressroom

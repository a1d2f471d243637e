import Pressroom.Proofs.Access.Mediation
import Pressroom.Proofs.Service.Address

/-!
Whom the token of an API key stands for. A key names its owner by address, and neither its digest nor
its owner ever changes, so a token stands for whoever holds that address: the user it was issued for
as long as the address is theirs, and nobody or the next holder afterwards.
-/
namespace Pressroom

namespace Store

variable {s s' : Store} {now : Instant}

/-! ### Keys stay -/

/-- Every key of the first store is in the second one, with the same data. -/
def KeysStay (s s' : Store) : Prop := ∀ r ∈ s.keys, ∃ r' ∈ s'.keys, r'.id = r.id ∧ r'.data = r.data

theorem KeysStay.of_eq (h : s'.keys = s.keys) : s.KeysStay s' :=
  fun r hr => ⟨r, h ▸ hr, rfl, rfl⟩

theorem KeysStay.trans {s'' : Store} (h : s.KeysStay s') (h' : s'.KeysStay s'') :
    s.KeysStay s'' := by
  intro r hr
  obtain ⟨r', hr', hid, hdata⟩ := h r hr
  obtain ⟨r'', hr'', hid', hdata'⟩ := h' r' hr'
  exact ⟨r'', hr'', hid'.trans hid, hdata'.trans hdata⟩

theorem Write.keysStay (w : Write now s s') : s.KeysStay s' := by
  cases w with
  | addKey id data _ _ => exact fun r hr => ⟨r, List.mem_append_left _ hr, rfl, rfl⟩
  | deleteKey r _ =>
    intro x hx
    refine ⟨_, List.mem_map.2 ⟨x, hx, rfl⟩, ?_⟩
    split <;> exact ⟨rfl, rfl⟩
  | _ => exact .of_eq rfl

theorem Writes.keysStay (w : Writes now s s') : s.KeysStay s' := by
  induction w with
  | refl => exact .of_eq rfl
  | tail _ w ih => exact ih.trans w.keysStay

theorem setUp_keys (s : Store) (freshId : String) (now : Instant) (seed : Seed) :
    (s.setUp freshId now seed).1.keys = s.keys := by
  have hcreated : ∀ {t}, s.createMissing = .ok t → t.keys = s.keys := by
    intro t h
    obtain ⟨schema, rfl⟩ := createMissing_eq_ok h
    rfl
  rw [setUp]
  split
  · rfl
  · rename_i t h
    have hkeys := hcreated h
    split
    · exact hkeys
    · split <;> exact hkeys

end Store

namespace Service

open Store Account

variable {s t : Service}

theorem Step.keysStay (h : s.Step t) (hs : s.Sound) : s.store.KeysStay t.store := by
  obtain ⟨now, -, w | ⟨freshId, seed, hstore⟩⟩ := h.store hs
  · exact w.keysStay
  · exact .of_eq (by rw [hstore, setUp_keys])

theorem Reaches.keysStay (h : s.Reaches t) (hs : s.Sound) : s.store.KeysStay t.store := by
  induction h with
  | refl => exact .of_eq rfl
  | tail reach step ih => exact ih.trans (step.keysStay (Reaches.sound reach hs))

end Service

/-! ### Whom a token stands for -/

namespace Account

open Store

/-- A token of which the user shows something resolves to this user. -/
theorem resolved_of_shown {answer : StoreResult (Except Refusal User)} {β : Type} {f : User → β}
    {b : β} (h : (answer.toOption.bind Except.toOption).map f = some b) :
    ∃ user, answer = .ok (.ok user) ∧ f user = b := by
  obtain ⟨user, huser, hshown⟩ := Option.map_eq_some_iff.1 h
  obtain ⟨resolved, hanswer, hresolved⟩ := Option.bind_eq_some_iff.1 huser
  exact ⟨user, by rw [toOption_eq_some.1 hanswer, toOption_eq_some.1 hresolved], hshown⟩

/-- Asked for the owner of a key, a sound store gives a refusal or the holder of the address that the
key names. -/
theorem ownerOf_sound {s : Store} (hs : s.Sound) (key : ApiKey) :
    (∃ why, ownerOf s key = .ok (.error why)) ∨
      ∃ user address, ownerOf s key = .ok (.ok user) ∧ key.data.owner = some address ∧
        s.Holds user.id address := by
  rw [ownerOf]
  cases howner : key.data.owner with
  | none => exact .inl ⟨_, rfl⟩
  | some address =>
    dsimp only
    split
    · exact .inl ⟨_, rfl⟩
    · rcases hs.userByEmail? address with ⟨hnone, -⟩ | ⟨user, hsome, hholds⟩
      · rw [hnone]; exact .inl ⟨_, rfl⟩
      · rw [hsome]; exact .inr ⟨user, address, rfl, rfl, hholds⟩

/-- A sound store that has the key of a token resolves the token to a refusal or to the holder of
the address that the key names. -/
theorem resolve_sound {s : Store} (hs : s.Sound) {token : String} {r : Row KeyData}
    (hr : r ∈ s.keys) (hdigest : r.data.digest = some (tokenDigest token))
    (reached : Int → Bool) :
    (∃ why, resolve s token reached = .ok (.error why)) ∨
      ∃ user address, resolve s token reached = .ok (.ok user) ∧ r.data.owner = some address ∧
        s.Holds user.id address := by
  rw [resolve]
  split
  · exact .inl ⟨_, rfl⟩
  · rcases hs.keyByDigest? (tokenDigest token) with
      ⟨hnone, -⟩ | ⟨key, hsome, x, hx, -, hxdigest, -, hdata⟩
    · rw [hnone]; exact .inl ⟨_, rfl⟩
    · rw [hsome]
      have hsame : x = r := hs.digests x hx r hr _ hxdigest hdigest
      dsimp only
      split
      · exact .inl ⟨_, rfl⟩
      · rw [← hsame, ← hdata]
        exact ownerOf_sound hs key

end Account

namespace Service

open Store

theorem string?_of_bindOption {t : Option Text} {a : String}
    (h : bindOption t = .ok (some a)) : t.bind Text.string? = some a := by
  cases t with
  | none => cases h
  | some t =>
    obtain ⟨b, hb, hsome⟩ := map_eq_ok.1 h
    cases hsome
    rw [Store.bind] at hb
    rw [Option.bind_some]
    split at hb
    · rename_i hstring; cases hb; exact hstring
    · cases hb

/-- The key that is issued for a token carries its digest, and the owner it is issued for. -/
theorem issueKey_row {s t : Service} {now : Instant} {owner : Option Text} {expires : Option Int}
    {key : ApiKey} {token : String} (h : s.issueKey now owner expires = (t, .ok (key, token))) :
    ∃ r ∈ t.store.keys, r.data.digest = some (Account.tokenDigest token) ∧
      bindOption owner = .ok r.data.owner := by
  obtain ⟨-, data, hdigest, howner, -, -, -, hstore, -⟩ := issueKey_eq_ok h
  have hmem : .newRow s.fresh.nextId data now ∈ t.store.keys := by
    rw [hstore]; exact List.mem_append_right _ List.mem_cons_self
  exact ⟨_, hmem, hdigest, howner⟩

/-- Whatever happens after a token was issued for an address, the token is refused or stands for the
one live user who holds the address then: whose address is the same up to the case of ASCII letters, if
there is no U+0000 in it. -/
theorem token_stands_for_holder {policy : Policy} {settings : Settings} {platform : String}
    {begin now : Instant} {first s issued later : Service} {owner : Option Text}
    {expires : Option Int} {key : ApiKey} {token : String} (hbegin : InEra begin)
    (hstart : start policy settings platform begin = .ok first) (hreach : first.Reaches s)
    (hnow : InEra now) (hissue : s.issueKey now owner expires = (issued, .ok (key, token)))
    (hlater : issued.Reaches later) (reached : Int → Bool) :
    (∃ why, Account.resolve later.store token reached = .ok (.error why)) ∨
      ∃ user address, Account.resolve later.store token reached = .ok (.ok user) ∧
        owner.bind Text.string? = some address ∧ later.store.HasUser user ∧
        later.store.Holds user.id address ∧
        ('\x00' ∉ address.toList → SameAddress user.data.email address) ∧
        ∀ id, later.store.Holds id address → id = user.id := by
  have hs := hreach.sound (start_sound hbegin hstart)
  -- Issuing is a step itself, so the service is sound after it as well.
  have hstep : s.Step (s.issueKey now owner expires).1 :=
    .call now (.issueKey owner expires) hnow rfl
  rw [hissue] at hstep
  have hissued := hstep.sound hs
  have hfinal := hlater.sound hissued
  -- The key that was issued then is still there, and names the same owner.
  obtain ⟨r, hr, hdigest, howner⟩ := issueKey_row hissue
  obtain ⟨r', hr', -, hdata⟩ := hlater.keysStay hissued r hr
  rw [← hdata] at hdigest howner
  rcases Account.resolve_sound hfinal.store hr' hdigest reached with
    hrefused | ⟨user, address, hresolve, haddress, hholds⟩
  · exact .inl hrefused
  · rw [haddress] at howner
    have huser := Account.resolve_hasUser hresolve
    have hsame := hfinal.store.email_of_holds huser hholds
    exact .inr ⟨user, address, hresolve, string?_of_bindOption howner, huser, hholds,
      fun hnul => (noCaseSame_iff_sameAddress hnul).1 hsame,
      fun id hid => hfinal.store.holder_unique hid hholds⟩

/-! ### An address that changes hands -/

/-- The address of the first administrator, if nothing is set. -/
def seedAddress : String := Settings.standard.adminEmail

/-- A key for the first administrator. -/
def seedKey (first : Service) : Service × StoreResult (ApiKey × String) :=
  first.issueKey 0 (some (Text.ofString seedAddress)) none

/-- The first administrator is deleted, and somebody else is added under the same address. -/
def handOver (s : Service) : Service :=
  let deleted := ((Call.deleteUser (Text.ofString (Fresh.idText 1))).perform s 1).1
  ((Call.createUser ⟨some (Text.ofString "Other"), some (Text.ofString seedAddress),
    some (Text.ofString "x"), some 0⟩).perform deleted 2).1

theorem handOver_reaches (s : Service) : s.Reaches (handOver s) :=
  .tail (.single (.call 1 _ (by rw [InEra]; decide) rfl)) (.call 2 _ (by rw [InEra]; decide) rfl)

/-- The key of the first administrator stands for whoever holds the address as soon as it is
issued. -/
theorem token_stands_for_holder_seed :
    ∃ first issued key token user, start (.ofProfile .testing .standard) .standard "" 0 = .ok first ∧
      first.seedKey = (issued, .ok (key, token)) ∧
      Account.resolve issued.store token (fun _ => false) = .ok (.ok user) ∧
      SameAddress user.data.email seedAddress ∧
      ∀ id, issued.store.Holds id seedAddress → id = user.id := by
  obtain ⟨first, hstart, hkey, haccepted⟩ :
      ∃ first, start (.ofProfile .testing .standard) .standard "" 0 = .ok first ∧
        first.seedKey.2.toOption.map (·.2) = some (Fresh.tokenText 1) ∧
        ((Account.resolve first.seedKey.1.store (Fresh.tokenText 1) fun _ => false).toOption.bind
          Except.toOption).isSome = true :=
    ⟨_, rfl, by decide +kernel, by decide +kernel⟩
  cases hissue : first.seedKey with
  | mk issued made =>
    rw [hissue] at hkey haccepted
    cases made with
    | error f => cases hkey
    | ok made =>
      obtain ⟨key, token⟩ := made
      have htoken : token = Fresh.tokenText 1 := Option.some.inj hkey
      rw [← htoken] at haccepted
      rcases token_stands_for_holder inEra_zero hstart .refl inEra_zero hissue .refl
        (fun _ => false) with
        ⟨why, hwhy⟩ | ⟨user, address, hresolve, haddress, -, -, hsame, hunique⟩
      · dsimp only at haccepted; rw [hwhy] at haccepted; cases haccepted
      · rw [Option.bind_some, Text.string?_ofString] at haddress
        cases haddress
        exact ⟨first, issued, key, token, user, hstart, hissue, hresolve, hsame (by decide +kernel),
          hunique⟩

/-- A token does not stand for the user it was issued for once somebody else holds the address. -/
theorem token_passes_on :
    ∃ first user, start (.ofProfile .testing .standard) .standard "" 0 = .ok first ∧
      first.store.Holds (Fresh.idText 1) seedAddress ∧
      first.seedKey.2.toOption.map (·.2) = some (Fresh.tokenText 1) ∧
      first.seedKey.1.Reaches (handOver first.seedKey.1) ∧
      Account.resolve (handOver first.seedKey.1).store (Fresh.tokenText 1) (fun _ => false)
        = .ok (.ok user) ∧
      user.id ≠ Fresh.idText 1 := by
  obtain ⟨first, hstart, hholds, hkey, hother⟩ :
      ∃ first, start (.ofProfile .testing .standard) .standard "" 0 = .ok first ∧
        first.store.Holds (Fresh.idText 1) seedAddress ∧
        first.seedKey.2.toOption.map (·.2) = some (Fresh.tokenText 1) ∧
        ((Account.resolve (handOver first.seedKey.1).store (Fresh.tokenText 1)
          fun _ => false).toOption.bind Except.toOption).map (·.id) = some (Fresh.idText 3) :=
    ⟨_, rfl, by decide +kernel, by decide +kernel, by decide +kernel⟩
  have hids : Fresh.idText 3 ≠ Fresh.idText 1 := by decide +kernel
  obtain ⟨user, hresolve, huser⟩ := Account.resolved_of_shown hother
  exact ⟨first, user, hstart, hholds, hkey, handOver_reaches _, hresolve, huser ▸ hids⟩

end Service

end Pressroom

import Mathlib.Data.Rat.Floor
import Pressroom.Proofs.Service.Answers
import Pressroom.Proofs.Service.Seed

/-!
The life of a key that a request issues. The answer shows what is stored: the owner is a live user by
the address that is named, and the expiry is the second of the clock and as many whole days as the
number that is sent has. From then on the token resolves to this user as long as the key and the user
are live, the address stays the same up to the case of ASCII letters, and the expiry has not come; when
it has, the token has expired, whatever has become of the user.
-/
namespace Pressroom

open Web

/-! ### The number of days -/

/-- The whole part of a number that is at least one is the largest whole number up to its value. -/
theorem Binary.truncate?_eq_floor {x : Binary} {d : Int} (h : x.truncate? = some d) (hd : 1 ≤ d) :
    ∃ q : ℚ, x.value? = some ((q : WithTop ℚ) : Moment) ∧ ⌊q⌋ = d := by
  cases x with
  | nan => cases h
  | infinite negative => cases h
  | finite negative m e =>
    cases negative with
    | true =>
      -- The whole part of a negative number is none that is at least one.
      rw [truncate?, signed, if_pos rfl] at h
      cases h
      omega
    | false =>
      refine ⟨_, rfl, ?_⟩
      rw [truncate?, signed, if_neg (by decide)] at h
      cases h
      rw [signed, if_neg (by decide), Int.cast_natCast]
      split
      · rename_i he
        rw [zpow_of_nonneg he, ← Nat.cast_mul, Int.floor_natCast]
      · rename_i he
        rw [zpow_of_neg he, ← div_eq_mul_inv, Rat.floor_natCast_div_natCast, Int.natCast_div]

/-- The number that a value stands for: it is one, or it is a text that writes a whole one. -/
def Json.numberSent? : Json → Option Moment
  | .whole n => some (Moment.whole n)
  | .real x => x.value?
  | .text t => (readWhole t).toOption.map Moment.whole
  | _ => none

namespace Service

open Store Account

variable {s : Service} {v : Visit} {now : Instant} {r : Request}

/-- Of such a number the whole part is read, if that is at least one. -/
theorem wholePart?_eq_floor {sent : Json} {days : Int} (h : wholePart? sent = some days)
    (hdays : 1 ≤ days) :
    ∃ q : ℚ, sent.numberSent? = some ((q : WithTop ℚ) : Moment) ∧ ⌊q⌋ = days := by
  cases sent with
  | whole n =>
    cases h
    exact ⟨days, rfl, Int.floor_intCast days⟩
  | real x => exact Binary.truncate?_eq_floor h hdays
  | text t =>
    refine ⟨days, ?_, Int.floor_intCast days⟩
    rw [wholePart?] at h
    rw [Json.numberSent?, h]
    rfl
  | _ => cases h

/-- The expiry that a request for a key sends. -/
def expirySent (r : Request) : Json := (r.json?.getD .null).getD "expires_days"

/-- A key that is issued at an instant expires as it was sent: never if nothing was, and else after the
whole days of the number that was sent, counted from the second of the clock. It is not born expired,
and its expiry can be stored. -/
def ExpiresAsSent (now : Instant) (sent : Json) (expires : Option Int) : Prop :=
  sent = .null ∧ expires = none ∨ sent ≠ .null ∧ ∃ (q : ℚ) (e : Int),
    sent.numberSent? = some ((q : WithTop ℚ) : Moment) ∧ 1 ≤ ⌊q⌋ ∧ ⌊q⌋ ≤ 36500 ∧ expires = some e ∧
    e = now / microsPerSecond + 86400 * ⌊q⌋ ∧ now < e * microsPerSecond ∧ e < 2 ^ 63

/-- An expiry is read as it is sent. -/
theorem readExpiry_asSent (hnow : InEra now) (hclock : 0 ≤ now) {sent : Json} {expires : Option Int}
    (h : readExpiry now sent = .ok expires) : ExpiresAsSent now sent expires := by
  have hstorable := readExpiry_storable hnow h
  obtain hnone | ⟨hsome, days, hdays, hleast, hmost, rfl⟩ := readExpiry_eq_ok h
  · exact .inl hnone
  · obtain ⟨q, hq, rfl⟩ := wholePart?_eq_floor hdays hleast
    have hseconds : Cookie.secondsOf now = now / microsPerSecond :=
      Int.tdiv_eq_ediv_of_nonneg hclock
    have hexpiry : Cookie.secondsOf now + ⌊q⌋ * secondsPerDay
        = now / microsPerSecond + 86400 * ⌊q⌋ := by
      rw [hseconds, secondsPerDay, Int.mul_comm]
    refine .inr ⟨hsome, q, _, hq, hleast, hmost, rfl, hexpiry, ?_, (hstorable _ rfl).2⟩
    have hmicros : 0 < microsPerSecond := by decide
    have hlater : 1 ≤ 86400 * ⌊q⌋ := by omega
    rw [hexpiry]
    calc now < (now / microsPerSecond + 1) * microsPerSecond :=
        Int.lt_ediv_add_one_mul_self now hmicros
      _ ≤ _ := Int.mul_le_mul_of_nonneg_right (Int.add_le_add_left hlater _) hmicros.le

theorem readKeyRequest_expiry {data : Json} (h : readKeyRequest r = .ok data) :
    data.getD "expires_days" = expirySent r := by
  rw [expirySent]
  unfold readKeyRequest at h
  split at h
  · rename_i hnone
    cases h
    rw [hnone]
    rfl
  · rename_i hnull
    cases h
    rw [hnull]
    rfl
  · rename_i sent _ hsent
    split at h
    · cases h
      rw [hsent]
      rfl
    · cases h

/-! ### What is issued -/

/-- What the answer to a request for a key shows. -/
structure ShowsKey (answer : Option Json) (id token owner : String) (expires : Option Int) :
    Prop where
  id : answer.bind (·.get? "ID") = some (.string id)
  token : answer.bind (·.get? "Token") = some (.string token)
  owner : answer.bind (·.get? "OwnerEmail") = some (.string owner)
  expires : answer.bind (·.get? "ExpiresAt") = expires.map .whole

/-- The answer that issues a key shows it as it is stored. -/
theorem showsKey_issued (id token owner : String) (digest : Option String) (expires : Option Int)
    (now : Instant) :
    ShowsKey (some (.ofFields ((Entry.newItem id ⟨digest, some owner, expires⟩ now :
      ApiKey).keyRecord.publicMembers ++ [("Token", .string token),
        ("message", .string "Save this key now - it will not be shown again!")])))
      id token owner expires := by
  constructor <;> rw [Option.bind_some, Json.get?_ofFields] <;> cases expires <;> rfl

/-- The owner that is read is the address of a live user. -/
theorem readOwner_found (hs : s.store.Sound) {named : Json} {address : String}
    (h : readOwner s.store named = .ok (Text.ofString address)) :
    address ≠ "" ∧ ∃ u ∈ s.store.users, u.isLive = true ∧ noCaseSame u.data.email address = true := by
  obtain ⟨hcheck, user, hfound⟩ := readOwner_eq_ok h
  constructor
  · rintro rfl
    cases hcheck
  · obtain ⟨hnone, -⟩ | ⟨_, -, u, hu, -, hlive, hsame⟩ := hs.userByEmail? address
    · cases hnone.symm.trans hfound
    · exact ⟨u, hu, hlive, hsame⟩

/-- A key is stored with the digest of its token, the address of a live user and the expiry that was
sent, and shown as it is stored. -/
theorem createKey_stores (hs : s.store.Sound) (hnow : InEra v.now) (hclock : 0 ≤ v.now)
    (h : Successful (s.createKey v).2.status) :
    ∃ key : Row KeyData, ∃ token owner, isTokenLike token = true ∧ owner ≠ "" ∧
      (s.createKey v).1.store = { s.store with keys := s.store.keys ++ [key] } ∧
      key.isLive = true ∧ key.data.digest = some (tokenDigest token) ∧
      key.data.owner = some owner ∧ ExpiresAsSent v.now (expirySent v.request) key.data.expires ∧
      (∃ u ∈ s.store.users, u.isLive = true ∧ noCaseSame u.data.email owner = true) ∧
      ShowsKey (s.createKey v).2.body key.id token owner key.data.expires := by
  obtain ⟨caller, sent, expires, t, item, token, hread, hissue, hanswer⟩ := createKey_issues h
  obtain ⟨htoken, ⟨digest, owner, expiry⟩, hdigest, howner, rfl, -, -, hstore, rfl⟩ :=
    issueKey_eq_ok hissue
  obtain ⟨data, named, hdata, hnamed, hexpires⟩ := readNewKey_eq_ok hread
  rw [readKeyRequest_expiry hdata] at hexpires
  obtain ⟨address, hbound, rfl⟩ := map_eq_ok.1 howner
  rw [bind_eq_ok_iff.1 hbound] at hnamed
  obtain ⟨hfilled, hholder⟩ := readOwner_found hs hnamed
  have hlike : isTokenLike token = true := by
    rw [isTokenLike, String.startsWith_string_iff, htoken, Fresh.nextToken, Fresh.tokenText,
      String.toList_append]
    exact List.prefix_append _ _
  rw [hanswer]
  exact ⟨.newRow s.fresh.nextId ⟨digest, some address, expiry⟩ v.now, token, address, hlike, hfilled,
    hstore, rfl, hdigest, rfl, readExpiry_asSent hnow hclock hexpires, hholder,
    showsKey_issued _ _ _ _ _ _⟩

/-! ### What becomes of its token -/

/-- The token of a live key works: until the expiry of the key it resolves to a live user with the
address of the one it was issued for, and from then on it has expired. -/
structure TokenWorks (s : Store) (key : Row KeyData) (token : String) (u : Row UserData) : Prop where
  resolves : ∀ moment clock, ¬ Due key (Call.present? moment clock) →
    ∀ u' ∈ s.users, u'.isLive = true → SameAddress u'.data.email u.data.email →
      resolve s token (Call.reached moment clock) = .ok (.ok u'.item)
  expired : ∀ moment clock, Due key (Call.present? moment clock) →
    resolve s token (Call.reached moment clock) = .ok (.error .expired)

theorem tokenWorks_of_owner {s : Store} (hs : s.Sound) {token owner : String}
    (hlike : isTokenLike token = true) {key : Row KeyData} (hkey : s.KeyOf token key)
    (howner : key.data.owner = some owner) (hfilled : owner ≠ "") {u : Row UserData}
    (hsame : noCaseSame u.data.email owner = true) : TokenWorks s key token u where
  resolves moment clock hdue u' hu' hlive haddress := by
    rw [resolve_with_key hs hlike hkey, if_neg (fun h => hdue ((any_reached_iff _ _ _).1 h))]
    exact ownerOf_owned hs
      ⟨owner, howner, hfilled, hu', hlive, noCaseSame_trans haddress.noCaseSame hsame⟩
  expired moment clock hdue := by
    rw [resolve_with_key hs hlike hkey, if_pos ((any_reached_iff _ _ _).2 hdue)]

/-- A key keeps its data, so its token works wherever the key is live. -/
theorem Reaches.tokenWorks {later : Service} (h : s.Reaches later) (hs : s.Sound)
    {token owner : String} (hlike : isTokenLike token = true) {key key' : Row KeyData}
    (hkey : s.store.KeyOf token key) (howner : key.data.owner = some owner) (hfilled : owner ≠ "")
    {u : Row UserData} (hsame : noCaseSame u.data.email owner = true)
    (hkey' : key' ∈ later.store.keys) (hid : key'.id = key.id) (hlive : key'.isLive = true) :
    key'.data = key.data ∧ TokenWorks later.store key' token u := by
  obtain ⟨hmem, -, hdigest⟩ := hkey
  obtain ⟨x, hx, hxid, hdata⟩ := h.keysStay hs key hmem
  have hlater := (h.sound hs).store
  obtain rfl : key' = x := row_unique hlater.keys.ids hkey' hx (hid.trans hxid.symm)
  rw [← hdata] at hdigest howner
  exact ⟨hdata, tokenWorks_of_owner hlater hlike ⟨hkey', hlive, hdigest⟩ howner hfilled hsame⟩

/-- A key that is not born expired is not due at the instant it is issued. -/
theorem not_due_of_sent {key : Row KeyData} {sent : Json}
    (h : ExpiresAsSent now sent key.data.expires) : ¬ Due key (Call.present? none now) := by
  rw [← any_reached_iff]
  obtain ⟨-, hnone⟩ | ⟨-, q, e, -, -, -, hsome, -, hlater, -⟩ := h
  · rw [hnone, Option.any_none]
    decide
  · rw [hsome, Option.any_some, Call.reached, reachedAt, decide_eq_true_eq]
    exact Int.not_le.2 hlater

/-- In every state that a service gets into, a request for a key that is answered with one issues it
for the one live user with the address that the answer shows, as the schema tells addresses apart;
without U+0000 in it that is the same text up to the case of ASCII letters. The key expires as the
request says. Its token resolves to this user at once. In every later state that has the key live, it
resolves to the user as long as that address stays and the key has not expired, and has expired from
then on. -/
theorem issued_key_works {policy : Policy} {settings : Settings} {platform : String}
    {begin : Instant} {first : Service} (hbegin : InEra begin)
    (hstart : start policy settings platform begin = .ok first) (hreach : first.Reaches s)
    (hnow : InEra now) (hclock : 0 ≤ now) {id : String}
    (hfound : find r.target.path r.method = .handler .createKey id)
    (hcreated : (s.handle now r).2.status = 201) :
    ∃ key token owner u, ShowsKey (s.handle now r).2.body key.id token owner key.data.expires ∧
      ExpiresAsSent now (expirySent r) key.data.expires ∧
      (s.handle now r).1.store.KeyOf token key ∧ key.data.owner = some owner ∧
      (s.handle now r).1.store.OwnedBy key u ∧
      (∀ u', (s.handle now r).1.store.OwnedBy key u' → u' = u) ∧
      ('\x00' ∉ owner.toList → SameAddress u.data.email owner) ∧
      resolve (s.handle now r).1.store token (reachedAt now) = .ok (.ok u.item) ∧
      ∀ later, (s.handle now r).1.Reaches later → ∀ key' ∈ later.store.keys, key'.id = key.id →
        key'.isLive = true → key'.data = key.data ∧ TokenWorks later.store key' token u := by
  have hs : s.Sound := hreach.sound (start_sound hbegin hstart)
  have ht : (s.handle now r).1.Sound := (Step.request now r hnow).sound hs
  obtain ⟨m, v, harrival⟩ := arrives_of_success hfound (by rw [hcreated]; decide)
  obtain ⟨rfl, rfl, -⟩ := arrival?_visit harrival
  have hm : m.store.Sound := (arrival?_same harrival).store ▸ hs.store
  obtain ⟨hleft, hstatus⟩ := handle_arrived harrival
  have hbody := handle_body_of_write harrival rfl
  rw [hstatus] at hcreated
  obtain ⟨key, token, owner, hlike, hfilled, hstore, hlive, hdigest, howner, hexpires,
    ⟨u, hu, hulive, hsame⟩, hshows⟩ := createKey_stores hm hnow hclock (hcreated ▸ successful_created)
  rw [hleft] at ht ⊢
  rw [hbody]
  change (m.createKey v).1.Sound at ht
  have hkey : (m.createKey v).1.store.KeyOf token key := by
    refine ⟨?_, hlive, hdigest⟩
    rw [hstore]
    exact List.mem_append_right _ List.mem_cons_self
  have hmem : u ∈ (m.createKey v).1.store.users := by
    rw [hstore]
    exact hu
  have howned : (m.createKey v).1.store.OwnedBy key u :=
    ⟨owner, howner, hfilled, hmem, hulive, hsame⟩
  have hworks := tokenWorks_of_owner ht.store hlike hkey howner hfilled hsame
  exact ⟨key, token, owner, u, hshows, hexpires, hkey, howner, howned,
    fun u' hu' => ht.store.owner_unique howned hu',
    fun hnul => (noCaseSame_iff_sameAddress hnul).1 hsame,
    hworks.resolves none v.now (not_due_of_sent hexpires) u hmem hulive rfl,
    fun later hlater key' hkey' hid hlive' =>
      hlater.tokenWorks ht hlike hkey howner hfilled hsame hkey' hid hlive'⟩

/-! ### A key for a day and a half, and an address with U+0000 -/

/-- The first administrator asks for a key. -/
def keyRequest (content : String) : Request :=
  ⟨"POST", ⟨defaultHost, "/api/keys".toList, []⟩, [], false, some seedCookie,
    some ⟨some "application/json", content⟩⟩

/-- The key is to expire after a day and a half. -/
def dayRequest : Request := keyRequest "\x7b\"expires_days\":1.5\x7d"

/-- It expires after one day, in every state that has it live until then. -/
theorem issued_key_works_one_day :
    ∃ first key token u, start (.ofProfile .testing .standard) .standard "" 0 = .ok first ∧
      (first.handle 0 dayRequest).2.status = 201 ∧ key.data.expires = some 86400 ∧
      (first.handle 0 dayRequest).1.store.KeyOf token key ∧
      resolve (first.handle 0 dayRequest).1.store token (reachedAt 0) = .ok (.ok (Entry.item u)) ∧
      ∀ later, (first.handle 0 dayRequest).1.Reaches later → key ∈ later.store.keys →
        resolve later.store token (Call.reached (some (.whole 86400)) 0)
          = .ok (.error .expired) := by
  obtain ⟨first, hstart, hcreated, hkeys⟩ :
      ∃ first, start (.ofProfile .testing .standard) .standard "" 0 = .ok first ∧
        (first.handle 0 dayRequest).2.status = 201 ∧
        ∀ key ∈ (first.handle 0 dayRequest).1.store.keys, key.data.expires = some 86400 :=
    ⟨_, rfl, by decide +kernel, by decide +kernel⟩
  have hfound : find dayRequest.target.path dayRequest.method = .handler .createKey "" := by
    decide +kernel
  obtain ⟨key, token, _, u, -, -, hkey, -, -, -, -, hatonce, hlater⟩ :=
    issued_key_works inEra_zero hstart .refl inEra_zero le_rfl hfound hcreated
  have hexpires := hkeys key hkey.1
  refine ⟨first, key, token, u, hstart, hcreated, hexpires, hkey, hatonce, ?_⟩
  intro later hreaches hstays
  obtain ⟨-, hworks⟩ := hlater later hreaches key hstays rfl hkey.2.1
  exact hworks.expired (some (.whole 86400)) 0 ⟨_, hexpires, _, rfl, le_rfl⟩

/-- Somebody is added under an address with U+0000. -/
def withNul (first : Service) : Service :=
  ((Call.createUser (newcomer "a\x00b@c.de")).perform first 0).1

/-- The first administrator asks for a key for an address that differs from it behind the U+0000. -/
def nulRequest : Request := keyRequest "\x7b\"owner_email\":\"a\\u0000x@c.de\"\x7d"

/-- The key is issued although nobody has the address that is named, in any case of its letters, and
its token resolves to that user. -/
theorem key_issued_behind_nul :
    ∃ first, start (.ofProfile .testing .standard) .standard "" 0 = .ok first ∧
      first.Reaches first.withNul ∧ (first.withNul.handle 0 nulRequest).2.status = 201 ∧
      (∃ answer, (first.withNul.handle 0 nulRequest).2.body = some answer ∧
        answer.get? "OwnerEmail" = some (.string "a\x00x@c.de") ∧
        answer.get? "Token" = some (.string (Fresh.tokenText 1))) ∧
      (∀ u ∈ (first.withNul.handle 0 nulRequest).1.store.users,
        ¬ SameAddress u.data.email "a\x00x@c.de") ∧
      ∃ user, resolve (first.withNul.handle 0 nulRequest).1.store (Fresh.tokenText 1)
        (reachedAt 0) = .ok (.ok user) ∧ user.data.email = "a\x00b@c.de" := by
  obtain ⟨first, hstart, hcreated, hshown, hnobody, huser⟩ :
      ∃ first, start (.ofProfile .testing .standard) .standard "" 0 = .ok first ∧
        (first.withNul.handle 0 nulRequest).2.status = 201 ∧
        ((first.withNul.handle 0 nulRequest).2.body.map fun answer =>
            ((answer.get? "OwnerEmail").map textOf, (answer.get? "Token").map textOf))
          = some (some (Text.ofString "a\x00x@c.de"), some (Text.ofString (Fresh.tokenText 1))) ∧
        (∀ u ∈ (first.withNul.handle 0 nulRequest).1.store.users,
          ¬ SameAddress u.data.email "a\x00x@c.de") ∧
        ((resolve (first.withNul.handle 0 nulRequest).1.store (Fresh.tokenText 1)
          (reachedAt 0)).toOption.bind Except.toOption).map (·.data.email) = some "a\x00b@c.de" :=
    ⟨_, rfl, by decide +kernel, by decide +kernel, by decide +kernel, by decide +kernel⟩
  refine ⟨first, hstart, .single (.call 0 _ inEra_zero rfl), hcreated, ?_, hnobody,
    resolved_of_shown huser⟩
  obtain ⟨answer, hanswer, hboth⟩ := Option.map_eq_some_iff.1 hshown
  obtain ⟨howner, htoken⟩ := Prod.mk.inj hboth
  obtain ⟨value, hvalue, hread⟩ := Option.map_eq_some_iff.1 howner
  obtain ⟨value', hvalue', hread'⟩ := Option.map_eq_some_iff.1 htoken
  refine ⟨answer, hanswer, ?_, ?_⟩
  · rw [hvalue, eq_text_of_textOf (v := value) (by rw [hread]; decide +kernel), hread]
    rfl
  · rw [hvalue', eq_text_of_textOf (v := value') (by rw [hread']; decide +kernel), hread']
    rfl

end Service

end Pressroom

import Pressroom.Store.Setup
import Pressroom.Proofs.Store.Write

/-!
What is true of the store whenever the service runs: the schema is that of a start, no two rows of a
table have one id, all times were taken from the clock, live users have different addresses in any
ASCII case, and no two keys have one digest. `setUp_sound` shows that this is so from the start, and
`Write.sound` that no change of the store breaks any of it.
-/
namespace Pressroom

/-! ### The schema -/

namespace Schema.Startup

/-- The schema that the service creates when it starts. -/
def schema : Schema where
  tables := [users, posts, keys]
  indexes := emailIndex .noCase :: ["users", "posts", "api_keys"].flatMap searchIndexes

theorem carryOutAll?_empty : Schema.empty.carryOutAll? statements = some schema := rfl

/-- A service that starts again creates nothing. -/
theorem carryOutAll?_schema : schema.carryOutAll? statements = some schema := rfl

end Schema.Startup

namespace Store

/-! ### Addresses in any ASCII case -/

/-- What of a text counts when case does not matter. -/
def noCaseKey (s : String) : Nat × List Char :=
  (s.utf8ByteSize, (s.toList.takeWhile (· != '\x00')).map Char.toLower)

theorem noCaseSame_iff (a b : String) : noCaseSame a b = true ↔ noCaseKey a = noCaseKey b := by
  simp [noCaseSame, noCaseKey]

theorem noCaseSame_symm {a b : String} (h : noCaseSame a b = true) : noCaseSame b a = true :=
  (noCaseSame_iff b a).2 ((noCaseSame_iff a b).1 h).symm

theorem noCaseSame_trans {a b c : String} (hab : noCaseSame a b = true)
    (hbc : noCaseSame b c = true) : noCaseSame a c = true :=
  (noCaseSame_iff a c).2 (((noCaseSame_iff a b).1 hab).trans ((noCaseSame_iff b c).1 hbc))

/-! ### One table -/

/-- A table as it should be: every id once, and only times of the clock. -/
structure Table {α : Type} (rows : List (Row α)) : Prop where
  ids : (rows.map (·.id)).Nodup
  times : ∀ r ∈ rows, r.Timed

namespace Table

variable {α : Type} {rows : List (Row α)} {now : Instant}

theorem append (h : Table rows) (hnow : InEra now) {id : String} (hfresh : ∀ r ∈ rows, r.id ≠ id)
    (data : α) : Table (rows ++ [.newRow id data now]) where
  ids := by
    rw [List.map_append, List.nodup_append]
    refine ⟨h.ids, by simp, ?_⟩
    intro a ha b hb
    obtain ⟨r, hr, rfl⟩ := List.mem_map.1 ha
    rw [List.map_singleton, List.mem_singleton] at hb
    rw [hb]; exact hfresh r hr
  times r hr := by
    rcases List.mem_append.1 hr with hr | hr
    · exact h.times r hr
    · rw [List.mem_singleton.1 hr]; exact Entry.timed_newRow hnow id data

/-- A table stays as it should be when one row is changed into one with times of the clock. -/
theorem revise (h : Table rows) {r : Row α} (hr : r ∈ rows) {f : Row α → Row α} (hf : KeepsId f)
    (htimed : (f r).Timed) : Table (reviseRow rows r.id f) where
  ids := by rw [ids_reviseRow hf]; exact h.ids
  times x hx := by
    rcases (mem_reviseRow h.ids hr).1 hx with rfl | ⟨hx, -⟩
    · exact htimed
    · exact h.times x hx

theorem revised (h : Table rows) (hnow : InEra now) {r : Row α}
    (hr : findRow? rows false r.id = some r) (change : α → α) :
    Table (reviseRow rows r.id (Store.revised now change)) := by
  obtain ⟨hmem, -, hlive⟩ := findRow?_live hr
  exact h.revise hmem (keepsId_revised now change)
    (Entry.timed_revised hnow change (h.times r hmem) hlive)

theorem softDeleted (h : Table rows) (hnow : InEra now) {r : Row α}
    (hr : findRow? rows false r.id = some r) :
    Table (reviseRow rows r.id (Store.softDeleted now)) := by
  obtain ⟨hmem, -, -⟩ := findRow?_live hr
  exact h.revise hmem (keepsId_softDeleted now) (Entry.timed_softDeleted hnow (h.times r hmem))

theorem restored (h : Table rows) (hnow : InEra now) {r : Row α}
    (hr : findRow? rows true r.id = some r) :
    Table (reviseRow rows r.id (Store.restored now)) := by
  obtain ⟨hmem, -, -⟩ := findRow?_eq_some hr
  exact h.revise hmem (keepsId_restored now) (Entry.timed_restored hnow (h.times r hmem))

end Table

/-! ### Addresses and digests -/

/-- Live users have different addresses in any ASCII case. -/
def EmailsApart (users : List (Row UserData)) : Prop :=
  ∀ a ∈ users, ∀ b ∈ users, a.isLive = true → b.isLive = true →
    noCaseSame a.data.email b.data.email = true → a = b

/-- No live row of another id has this address in any ASCII case. -/
def EmailFree (users : List (Row UserData)) (id email : String) : Prop :=
  ∀ r ∈ users, r.isLive = true → noCaseSame r.data.email email = true → r.id = id

/-- No two keys, live or deleted, have one digest. -/
def DigestsApart (keys : List (Row KeyData)) : Prop :=
  ∀ a ∈ keys, ∀ b ∈ keys, ∀ d, a.data.digest = some d → b.data.digest = some d → a = b

theorem EmailsApart.append {users : List (Row UserData)} (h : EmailsApart users) {id : String}
    {data : UserData} (hfresh : ∀ r ∈ users, r.id ≠ id) (hfree : EmailFree users id data.email)
    (now : Instant) : EmailsApart (users ++ [.newRow id data now]) := by
  intro a ha b hb hla hlb hsame
  rcases List.mem_append.1 ha with ha | ha <;> rcases List.mem_append.1 hb with hb | hb
  · exact h a ha b hb hla hlb hsame
  · rw [List.mem_singleton.1 hb] at hsame
    exact absurd (hfree a ha hla hsame) (hfresh a ha)
  · rw [List.mem_singleton.1 ha] at hsame
    exact absurd (hfree b hb hlb (noCaseSame_symm hsame)) (hfresh b hb)
  · rw [List.mem_singleton.1 ha, List.mem_singleton.1 hb]

theorem EmailsApart.revise {users : List (Row UserData)} (h : EmailsApart users)
    (hn : (users.map (·.id)).Nodup) {r : Row UserData} (hr : r ∈ users)
    {f : Row UserData → Row UserData}
    (hfree : (f r).isLive = true → EmailFree users r.id (f r).data.email) :
    EmailsApart (reviseRow users r.id f) := by
  intro a ha b hb hla hlb hsame
  rcases (mem_reviseRow hn hr).1 ha with rfl | ⟨ha, hna⟩ <;>
    rcases (mem_reviseRow hn hr).1 hb with rfl | ⟨hb, hnb⟩
  · rfl
  · exact absurd (hfree hla b hb hlb (noCaseSame_symm hsame)) hnb
  · exact absurd (hfree hlb a ha hla hsame) hna
  · exact h a ha b hb hla hlb hsame

/-- The address that a live user has is free for that user. -/
theorem EmailsApart.own {users : List (Row UserData)} (h : EmailsApart users) {r : Row UserData}
    (hr : r ∈ users) (hlive : r.isLive = true) : EmailFree users r.id r.data.email :=
  fun x hx hlx hsame => by rw [h x hx r hr hlx hlive hsame]

theorem DigestsApart.append {keys : List (Row KeyData)} (h : DigestsApart keys) {id : String}
    {data : KeyData} (hfree : ∀ r ∈ keys, ∀ d, data.digest = some d → r.data.digest ≠ some d)
    (now : Instant) : DigestsApart (keys ++ [.newRow id data now]) := by
  intro a ha b hb d hda hdb
  rcases List.mem_append.1 ha with ha | ha <;> rcases List.mem_append.1 hb with hb | hb
  · exact h a ha b hb d hda hdb
  · rw [List.mem_singleton.1 hb] at hdb
    exact absurd hda (hfree a ha d hdb)
  · rw [List.mem_singleton.1 ha] at hda
    exact absurd hdb (hfree b hb d hda)
  · rw [List.mem_singleton.1 ha, List.mem_singleton.1 hb]

theorem DigestsApart.revise {keys : List (Row KeyData)} (h : DigestsApart keys)
    (hn : (keys.map (·.id)).Nodup) {r : Row KeyData} (hr : r ∈ keys)
    {f : Row KeyData → Row KeyData} (hdata : (f r).data = r.data) :
    DigestsApart (reviseRow keys r.id f) := by
  intro a ha b hb d hda hdb
  rcases (mem_reviseRow hn hr).1 ha with rfl | ⟨ha, hna⟩ <;>
    rcases (mem_reviseRow hn hr).1 hb with rfl | ⟨hb, hnb⟩
  · rfl
  · rw [hdata] at hda
    exact absurd (congrArg (·.id) (h b hb r hr d hdb hda)) hnb
  · rw [hdata] at hdb
    exact absurd (congrArg (·.id) (h a ha r hr d hda hdb)) hna
  · exact h a ha b hb d hda hdb

/-! ### The whole store -/

/-- The store can be reached, and its three tables are there. -/
structure Ready (s : Store) : Prop where
  reachable : s.reachable = true
  users : s.schema.hasTable "users" = true
  posts : s.schema.hasTable "posts" = true
  keys : s.schema.hasTable "api_keys" = true

theorem Ready.need {s : Store} (h : s.Ready) :
    s.need "users" = .ok () ∧ s.need "posts" = .ok () ∧ s.need "api_keys" = .ok () := by
  simp [Store.need, h.reachable, h.users, h.posts, h.keys]

/-- A store as the service keeps it. -/
structure Sound (s : Store) : Prop where
  reachable : s.reachable = true
  schema : s.schema = Schema.Startup.schema
  users : Table s.users
  posts : Table s.posts
  keys : Table s.keys
  emails : EmailsApart s.users
  digests : DigestsApart s.keys

theorem Sound.ready {s : Store} (h : s.Sound) : s.Ready where
  reachable := h.reachable
  users := by rw [h.schema]; rfl
  posts := by rw [h.schema]; rfl
  keys := by rw [h.schema]; rfl

/-- The schema keeps the addresses of live users apart in any ASCII case. -/
theorem Sound.emailFree {s : Store} (hs : s.Sound) {id email : String}
    (h : s.emailClash id email = false) : EmailFree s.users id email := by
  have hindex : s.schema.liveUnique? "users" "email" = some .noCase := by rw [hs.schema]; rfl
  intro r hr hlive hsame
  simp only [emailClash, hindex, sameUnder, List.any_eq_false] at h
  by_contra hne
  exact h r hr (by simp [hlive, hne, hsame])

/-- An address is only refused for the sake of a live user who has it. -/
theorem Sound.clash {s : Store} (hs : s.Sound) {id email : String}
    (h : s.emailClash id email = true) :
    ∃ r ∈ s.users, r.isLive = true ∧ noCaseSame r.data.email email = true := by
  have hindex : s.schema.liveUnique? "users" "email" = some .noCase := by rw [hs.schema]; rfl
  simp only [emailClash, hindex, sameUnder, List.any_eq_true, Bool.and_eq_true] at h
  obtain ⟨r, hr, ⟨hlive, -⟩, hsame⟩ := h
  exact ⟨r, hr, hlive, hsame⟩

theorem digestTaken_eq_false {s : Store} {digest : Option String}
    (h : s.digestTaken digest = false) :
    ∀ r ∈ s.keys, ∀ d, digest = some d → r.data.digest ≠ some d := by
  rintro r hr d rfl hd
  simp only [digestTaken, List.any_eq_false] at h
  exact h r hr (by simp [hd])

/-- No change of the store breaks what is true of it. -/
theorem Write.sound {now : Instant} (hnow : InEra now) {s s' : Store} (w : Write now s s')
    (h : s.Sound) : s'.Sound := by
  cases w with
  | addUser id data fresh free =>
    have hfree := h.emailFree free
    exact { h with
      users := h.users.append hnow fresh data, emails := h.emails.append fresh hfree now }
  | reviseUser r change found free _ =>
    have hmem := (findRow?_live found).1
    have hfree := h.emailFree free
    exact { h with
      users := h.users.revised hnow found change
      emails := h.emails.revise h.users.ids hmem fun _ => hfree }
  | setPassword r password found =>
    -- No clash was looked for, but the address is the one that the user has already.
    obtain ⟨hmem, -, hlive⟩ := findRow?_live found
    have hown := h.emails.own hmem hlive
    exact { h with
      users := h.users.revised hnow found _
      emails := h.emails.revise h.users.ids hmem fun _ => hown }
  | deleteUser r found =>
    have hmem := (findRow?_live found).1
    exact { h with
      users := h.users.softDeleted hnow found
      emails := h.emails.revise h.users.ids hmem fun hlive => by cases hlive }
  | restoreUser r found _ free =>
    have hmem := (findRow?_eq_some found).1
    have hfree := h.emailFree free
    exact { h with
      users := h.users.restored hnow found
      emails := h.emails.revise h.users.ids hmem fun _ => hfree }
  | addPost id data fresh => exact { h with posts := h.posts.append hnow fresh data }
  | revisePost r change found =>
    exact { h with posts := h.posts.revised hnow found change }
  | deletePost r found => exact { h with posts := h.posts.softDeleted hnow found }
  | restorePost r found _ => exact { h with posts := h.posts.restored hnow found }
  | addKey id data fresh free =>
    have hfree := digestTaken_eq_false free
    exact { h with
      keys := h.keys.append hnow fresh data, digests := h.digests.append hfree now }
  | deleteKey r found =>
    have hmem := (findRow?_live found).1
    exact { h with
      keys := h.keys.softDeleted hnow found
      digests := h.digests.revise h.keys.ids hmem rfl }

/-! ### Setting up -/

/-- Creating the missing tables touches the schema alone. -/
theorem createMissing_eq_ok {s t : Store} (h : s.createMissing = .ok t) :
    ∃ schema, t = { s with schema } := by
  rw [createMissing] at h
  split at h
  · cases h
  · split at h <;> cases h
    exact ⟨_, rfl⟩

theorem sound_created : Sound { blank with schema := Schema.Startup.schema } where
  reachable := rfl
  schema := rfl
  users := ⟨List.nodup_nil, fun _ h => nomatch h⟩
  posts := ⟨List.nodup_nil, fun _ h => nomatch h⟩
  keys := ⟨List.nodup_nil, fun _ h => nomatch h⟩
  emails := fun _ h => nomatch h
  digests := fun _ h => nomatch h

/-- A store that is in use lacks no table. -/
theorem Sound.createMissing {s : Store} (hs : s.Sound) : s.createMissing = .ok s := by
  have hall : s.schema.carryOutAll? Schema.Startup.statements = some s.schema := by
    rw [hs.schema]; exact Schema.Startup.carryOutAll?_schema
  rw [Store.createMissing, if_neg (by rw [hs.reachable]; decide), hall]

/-- The tables are created in an empty store; in one that is in use they are all there. -/
theorem createMissing_sound {s : Store} (h : s = .blank ∨ s.Sound) :
    ∃ t, s.createMissing = .ok t ∧ t.Sound := by
  rcases h with rfl | h
  · refine ⟨_, ?_, sound_created⟩
    have hall : blank.schema.carryOutAll? Schema.Startup.statements
        = some Schema.Startup.schema := Schema.Startup.carryOutAll?_empty
    rw [createMissing, if_neg (by decide), hall]
  · exact ⟨s, h.createMissing, h⟩

/-- However setting up ends, the store is as it should be. -/
theorem setUp_sound {s : Store} {now : Instant} (hnow : InEra now) (h : s = .blank ∨ s.Sound)
    (freshId : String) (seed : Seed) : (s.setUp freshId now seed).1.Sound := by
  obtain ⟨t, hcreated, ht⟩ := createMissing_sound h
  rw [setUp, hcreated]
  dsimp only
  split
  · exact ht
  · rename_i hnone
    have hnone : t.users = [] := by simpa using hnone
    split
    · exact ht
    · rename_i data _
      have fresh : ∀ r ∈ t.users, r.id ≠ freshId := by rw [hnone]; exact fun _ h => nomatch h
      have hfree : EmailFree t.users freshId data.email := by
        rw [hnone]; exact fun _ h => nomatch h
      have husers := ht.users.append hnow fresh data
      have hemails := ht.emails.append fresh hfree now
      rw [hnone] at husers hemails
      exact { ht with users := husers, emails := hemails }

end Store

end Pressroom

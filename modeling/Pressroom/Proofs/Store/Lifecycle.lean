import Mathlib.Logic.Relation
import Pressroom.Proofs.Store.Lookup

/-!
The life of a row. A row begins live, may be deleted and brought back any number of times, and never
leaves its table. `Turn` lists the operations that delete a row or bring one back, `Edit` what all the
others do: they add a row or give a live row new data, so that a deleted row stays exactly as its
deletion left it.
-/
namespace Pressroom

/-- What a row of each kind holds. -/
abbrev RecordKind.Data : RecordKind → Type
  | .apiKey => KeyData
  | .post => PostData
  | .user => UserData

namespace Store

/-! ### The table of a kind -/

/-- The rows of a kind, deleted or not. -/
def rows (s : Store) : (k : RecordKind) → List (Row k.Data)
  | .apiKey => s.keys
  | .post => s.posts
  | .user => s.users

/-- The store with other rows of one kind. -/
def withRows (s : Store) : (k : RecordKind) → List (Row k.Data) → Store
  | .apiKey, rows => { s with keys := rows }
  | .post, rows => { s with posts := rows }
  | .user, rows => { s with users := rows }

@[simp] theorem rows_withRows (s : Store) (k : RecordKind) (rows : List (Row k.Data)) :
    (s.withRows k rows).rows k = rows := by
  cases k <;> rfl

theorem rows_withRows_of_ne (s : Store) {k j : RecordKind} (h : j ≠ k) (rows : List (Row k.Data)) :
    (s.withRows k rows).rows j = s.rows j := by
  cases k <;> cases j <;> first | rfl | exact absurd rfl h

@[simp] theorem withRows_withRows (s : Store) (k : RecordKind) (rows rows' : List (Row k.Data)) :
    (s.withRows k rows).withRows k rows' = s.withRows k rows' := by
  cases k <;> rfl

/-- No two rows of a kind have one id. -/
def Keyed (s : Store) : Prop := ∀ k, ((s.rows k).map (·.id)).Nodup

theorem Sound.table {s : Store} (h : s.Sound) (k : RecordKind) : Table (s.rows k) := by
  cases k with
  | apiKey => exact h.keys
  | post => exact h.posts
  | user => exact h.users

theorem Sound.keyed {s : Store} (h : s.Sound) : s.Keyed := fun k => (h.table k).ids

theorem Keyed.withRows {s : Store} (h : s.Keyed) {k : RecordKind} {rows : List (Row k.Data)}
    (hn : (rows.map (·.id)).Nodup) : (s.withRows k rows).Keyed := by
  intro j
  by_cases hj : j = k
  · subst hj; rw [rows_withRows]; exact hn
  · rw [rows_withRows_of_ne s hj]; exact h j

/-! ### What stays of a row -/

/-- What becomes of a row that is neither deleted nor brought back. -/
structure Kept {α : Type} (r r' : Row α) : Prop where
  id : r'.id = r.id
  created : r'.created = r.created
  deleted : r'.deleted = r.deleted
  gone : r.isLive = false → r' = r

namespace Kept

variable {α : Type} {r r' r'' : Row α}

theorem refl (r : Row α) : Kept r r := ⟨rfl, rfl, rfl, fun _ => rfl⟩

theorem isLive (h : Kept r r') : r'.isLive = r.isLive := by
  rw [Entry.isLive, h.deleted, Entry.isLive]

theorem trans (h : Kept r r') (h' : Kept r' r'') : Kept r r'' where
  id := h'.id.trans h.id
  created := h'.created.trans h.created
  deleted := h'.deleted.trans h.deleted
  gone hgone := (h'.gone (h.isLive.trans hgone)).trans (h.gone hgone)

end Kept

/-- Every row of the first store is still there, neither deleted nor brought back. -/
def Keeps (s s' : Store) : Prop := ∀ k, ∀ r ∈ s.rows k, ∃ r' ∈ s'.rows k, Kept r r'

theorem Keeps.refl (s : Store) : Keeps s s := fun _ r hr => ⟨r, hr, .refl r⟩

theorem Keeps.trans {s s' s'' : Store} (h : Keeps s s') (h' : Keeps s' s'') : Keeps s s'' := by
  intro k r hr
  obtain ⟨r', hr', hkept⟩ := h k r hr
  obtain ⟨r'', hr'', hkept'⟩ := h' k r' hr'
  exact ⟨r'', hr'', hkept.trans hkept'⟩

/-! ### Edits -/

/-- A change that adds a row of a kind or gives a live row of this kind new data. -/
inductive Edit (now : Instant) (k : RecordKind) (s : Store) : Store → Prop
  | add (id : String) (data : k.Data) (fresh : ∀ r ∈ s.rows k, r.id ≠ id) :
      Edit now k s (s.withRows k (s.rows k ++ [.newRow id data now]))
  | revise (r : Row k.Data) (change : k.Data → k.Data)
      (found : findRow? (s.rows k) false r.id = some r) :
      Edit now k s (s.withRows k (reviseRow (s.rows k) r.id (revised now change)))

/-- Edits one after the other. -/
abbrev Edits (now : Instant) (k : RecordKind) : Store → Store → Prop :=
  Relation.ReflTransGen (Edit now k)

section Edits

variable {s s' : Store} {now : Instant} {id : Text} {found : Bool} {k : RecordKind}

theorem Edit.keyed (e : Edit now k s s') (h : s.Keyed) : s'.Keyed := by
  cases e with
  | add id data fresh =>
    refine h.withRows ?_
    rw [List.map_append, List.nodup_append]
    refine ⟨h k, by simp, fun a ha b hb => ?_⟩
    obtain ⟨r, hr, rfl⟩ := List.mem_map.1 ha
    rw [List.map_singleton, List.mem_singleton] at hb
    rw [hb]; exact fresh r hr
  | revise r change found =>
    refine h.withRows ?_
    rw [ids_reviseRow (keepsId_revised now change)]; exact h k

/-- The rows of the other kinds are left alone, so only those of the kind at hand are looked at. -/
theorem keeps_withRows {rows : List (Row k.Data)}
    (h : ∀ r ∈ s.rows k, ∃ r' ∈ rows, Kept r r') : Keeps s (s.withRows k rows) := by
  intro j r hr
  by_cases hj : j = k
  · subst hj; rw [rows_withRows]; exact h r hr
  · rw [rows_withRows_of_ne s hj]; exact ⟨r, hr, .refl r⟩

theorem Edit.keeps (e : Edit now k s s') (h : s.Keyed) : Keeps s s' := by
  cases e with
  | add id data fresh =>
    exact keeps_withRows fun r hr => ⟨r, List.mem_append_left _ hr, .refl r⟩
  | revise x change found =>
    obtain ⟨hx, -, hlive⟩ := findRow?_live found
    refine keeps_withRows fun r hr => ?_
    by_cases hid : r.id = x.id
    · rw [row_unique (h k) hr hx hid]
      exact ⟨_, (mem_reviseRow (h k) hx).2 (.inl rfl), rfl, rfl, rfl, fun hgone =>
        absurd (hlive.symm.trans hgone) (by decide)⟩
    · exact ⟨r, (mem_reviseRow (h k) hx).2 (.inr ⟨hr, hid⟩), .refl r⟩

theorem Edits.keyed (e : Edits now k s s') (h : s.Keyed) : s'.Keyed := by
  induction e with
  | refl => exact h
  | tail _ e ih => exact e.keyed ih

theorem Edits.keeps (e : Edits now k s s') (h : s.Keyed) : Keeps s s' := by
  induction e with
  | refl => exact .refl s
  | tail es e ih => exact ih.trans (e.keeps (Edits.keyed es h))

/-- Edits leave the rows of the other kinds alone. -/
theorem Edits.rows_of_ne (e : Edits now k s s') {j : RecordKind} (hj : j ≠ k) :
    s'.rows j = s.rows j := by
  induction e with
  | refl => rfl
  | tail _ e ih => cases e <;> exact (rows_withRows_of_ne _ hj _).trans ih

/-! ### The operations that edit -/

theorem createUser_edits {newId : String} {n : NewUser} {user : User}
    (h : s.createUser newId now n = .ok (s', user)) : Edits now .user s s' := by
  obtain ⟨data, -, fresh, -, rfl, -⟩ := createUser_eq_ok h
  exact .single (Edit.add (k := .user) newId data fresh)

theorem updateUser_edits {c : UserChanges} (h : s.updateUser id now c = .ok (s', found)) :
    Edits now .user s s' := by
  obtain ⟨rfl, -⟩ | ⟨-, r, change, hr, -, -, -, rfl⟩ := updateUser_eq_ok h
  · exact .refl
  · exact .single (Edit.revise (k := .user) r change hr)

theorem updatePassword_edits {password : Option Text}
    (h : s.updatePassword id now password = .ok (s', found)) : Edits now .user s s' := by
  obtain rfl | ⟨-, r, hash, hr, -, -, rfl⟩ := updatePassword_eq_ok h
  · exact .refl
  · exact .single (Edit.revise (k := .user) r _ hr)

theorem createPost_edits {newId : String} {n : PostParts} {post : Post}
    (h : s.createPost newId now n = .ok (s', post)) : Edits now .post s s' := by
  obtain ⟨data, -, fresh, rfl, -⟩ := createPost_eq_ok h
  exact .single (Edit.add (k := .post) newId data fresh)

theorem updatePost_edits {c : PostChanges} (h : s.updatePost id now c = .ok (s', found)) :
    Edits now .post s s' := by
  obtain ⟨rfl, -⟩ | ⟨-, r, change, hr, -, -, rfl⟩ := updatePost_eq_ok h
  · exact .refl
  · exact .single (Edit.revise (k := .post) r change hr)

theorem createKey_edits {newId : String} {n : KeyParts} {key : ApiKey}
    (h : s.createKey newId now n = .ok (s', key)) : Edits now .apiKey s s' := by
  obtain ⟨data, -, fresh, -, rfl, -⟩ := createKey_eq_ok h
  exact .single (Edit.add (k := .apiKey) newId data fresh)

end Edits

/-- Setting up adds a user at most. -/
theorem setUp_rows (s : Store) (freshId : String) (now : Instant) (seed : Seed) {k : RecordKind}
    (hk : k ≠ .user) : (s.setUp freshId now seed).1.rows k = s.rows k := by
  rw [setUp]
  cases h : s.createMissing with
  | error f => rfl
  | ok t =>
    obtain ⟨schema, rfl⟩ := createMissing_eq_ok h
    dsimp only
    split
    · cases k <;> rfl
    · split
      · cases k <;> rfl
      · exact (rows_withRows_of_ne _ hk _).trans (by cases k <;> rfl)

/-- Setting up leaves every row there is as it is. -/
theorem setUp_keeps (s : Store) (freshId : String) (now : Instant) (seed : Seed) :
    Keeps s (s.setUp freshId now seed).1 := by
  have hcreated : ∀ t, s.createMissing = .ok t → ∀ k, t.rows k = s.rows k := by
    intro t h k
    obtain ⟨schema, rfl⟩ := createMissing_eq_ok h
    cases k <;> rfl
  rw [setUp]
  cases h : s.createMissing with
  | error f => exact .refl s
  | ok t =>
    have hrows := hcreated t h
    have hsame : Keeps s t := fun k r hr => ⟨r, by rw [hrows]; exact hr, .refl r⟩
    dsimp only
    split
    · exact hsame
    · rename_i hnone
      have hnone : t.users = [] := by simpa using hnone
      split
      · exact hsame
      · refine hsame.trans (keeps_withRows (k := .user) fun r hr => ?_)
        have hr : r ∈ t.users := hr
        rw [hnone] at hr; cases hr

/-! ### Turns -/

/-- The operations that delete a row or bring one back. A key cannot be brought back. -/
inductive Turn where
  | deleteUser
  | restoreUser
  | deletePost
  | restorePost
  | deleteKey
  deriving DecidableEq

namespace Turn

/-- The kind of the rows that it is about. -/
def kind : Turn → RecordKind
  | deleteUser | restoreUser => .user
  | deletePost | restorePost => .post
  | deleteKey => .apiKey

/-- Whether it deletes a live row; else it brings a deleted row back. -/
def deletes : Turn → Bool
  | deleteUser | deletePost | deleteKey => true
  | restoreUser | restorePost => false

/-- Does it to the row with an id. -/
def carryOut (t : Turn) (s : Store) (id : Text) (now : Instant) : StoreResult (Store × Bool) :=
  match t with
  | deleteUser => s.deleteUser id now
  | restoreUser => s.restoreUser id now
  | deletePost => s.deletePost id now
  | restorePost => s.restorePost id now
  | deleteKey => s.deleteKey id now

/-- What becomes of the row. -/
def turned {α : Type} (t : Turn) (now : Instant) (r : Row α) : Row α :=
  if t.deletes then softDeleted now r else restored now r

/-- The row is the one that a turn looks for under an id. -/
structure Meets (t : Turn) (s : Store) (id : Text) (r : Row t.kind.Data) : Prop where
  mem : r ∈ s.rows t.kind
  id : id = Text.ofString r.id
  life : r.isLive = t.deletes

/-- The store after a turn that has found its row: this row is turned, and all else is as it was. -/
def after (t : Turn) (s : Store) (id : String) (now : Instant) : Store :=
  s.withRows t.kind (reviseRow (s.rows t.kind) id (t.turned now))

theorem keepsId_turned {α : Type} (t : Turn) (now : Instant) : KeepsId (α := α) (t.turned now) := by
  intro r; rw [turned]; split <;> rfl

/-- A turn turns the life of a row into its opposite. -/
theorem turned_isLive {α : Type} (t : Turn) (now : Instant) (r : Row α) :
    (t.turned now r).isLive = !t.deletes := by
  rw [turned]; split <;> rename_i h
  · rw [h]; rfl
  · rw [Bool.not_eq_true] at h; rw [h]; rfl

variable {t : Turn} {s s' : Store} {id : Text} {now : Instant} {found : Bool}

/-- A turn that answers has left the store alone and found nothing, or has found its row and turned
it. -/
theorem carryOut_eq_ok (h : t.carryOut s id now = .ok (s', found)) :
    s' = s ∧ found = false ∨ found = true ∧ ∃ r, t.Meets s id r ∧ s' = t.after s r.id now := by
  cases t with
  | deleteUser =>
    obtain hs | ⟨hfound, r, hr, hid, rfl⟩ := deleteUser_eq_ok h
    · exact .inl hs
    · obtain ⟨hmem, -, hlive⟩ := findRow?_live hr
      exact .inr ⟨hfound, r, ⟨hmem, bind_eq_ok_iff.1 hid, hlive⟩, rfl⟩
  | restoreUser =>
    obtain hs | ⟨hfound, r, hr, hgone, -, hid, rfl⟩ := restoreUser_eq_ok h
    · exact .inl hs
    · exact .inr ⟨hfound, r, ⟨(findRow?_eq_some hr).1, bind_eq_ok_iff.1 hid, hgone⟩, rfl⟩
  | deletePost =>
    obtain hs | ⟨hfound, r, hr, hid, rfl⟩ := deletePost_eq_ok h
    · exact .inl hs
    · obtain ⟨hmem, -, hlive⟩ := findRow?_live hr
      exact .inr ⟨hfound, r, ⟨hmem, bind_eq_ok_iff.1 hid, hlive⟩, rfl⟩
  | restorePost =>
    obtain hs | ⟨hfound, r, hr, hgone, hid, rfl⟩ := restorePost_eq_ok h
    · exact .inl hs
    · exact .inr ⟨hfound, r, ⟨(findRow?_eq_some hr).1, bind_eq_ok_iff.1 hid, hgone⟩, rfl⟩
  | deleteKey =>
    obtain hs | ⟨hfound, r, hr, hid, rfl⟩ := deleteKey_eq_ok h
    · exact .inl hs
    · obtain ⟨hmem, -, hlive⟩ := findRow?_live hr
      exact .inr ⟨hfound, r, ⟨hmem, bind_eq_ok_iff.1 hid, hlive⟩, rfl⟩

/-- The row that a turn finds is changed by it. -/
theorem Meets.after_ne (hs : s.Keyed) {r : Row t.kind.Data} (h : t.Meets s id r) :
    t.after s r.id now ≠ s := by
  intro hsame
  have hmem : t.turned now r ∈ (t.after s r.id now).rows t.kind := by
    rw [after, rows_withRows]; exact (mem_reviseRow (hs t.kind) h.mem).2 (.inl rfl)
  rw [hsame] at hmem
  have hlife := turned_isLive t now r
  rw [row_unique (hs t.kind) hmem h.mem (keepsId_turned t now r), h.life] at hlife
  exact absurd hlife (by cases t.deletes <;> decide)

/-- A turn says that it found its row exactly if it changed something. -/
theorem found_iff (hs : s.Keyed) (h : t.carryOut s id now = .ok (s', found)) :
    found = true ↔ s' ≠ s := by
  obtain ⟨rfl, rfl⟩ | ⟨rfl, r, hr, rfl⟩ := carryOut_eq_ok h
  · simp
  · exact ⟨fun _ => hr.after_ne hs, fun _ => rfl⟩

/-! ### Turns are answered -/

/-- Somebody else has the address of a deleted user, who therefore cannot come back. -/
def Blocked (t : Turn) (s : Store) (id : String) : Prop :=
  t = restoreUser ∧ ∃ r ∈ s.users, r.id = id ∧ r.isLive = false ∧
    ∃ x ∈ s.users, x.isLive = true ∧ noCaseSame x.data.email r.data.email = true

theorem find_live {α : Type} (rows : List (Row α)) (id : String) :
    (∃ r ∈ rows, r.id = id ∧ r.isLive = true ∧ findRow? rows false id = some r) ∨
      findRow? rows false id = none ∧ ∀ r ∈ rows, r.id = id → r.isLive = false := by
  cases h : findRow? rows false id with
  | none =>
    refine .inr ⟨rfl, fun r hr hid => ?_⟩
    have hskip := List.find?_eq_none.1 h r hr
    simpa [hid] using hskip
  | some r =>
    obtain ⟨hmem, hid, hlive⟩ := findRow?_live h
    exact .inl ⟨r, hmem, hid, hlive, rfl⟩

theorem find_any {α : Type} (rows : List (Row α)) (id : String) :
    (∃ r ∈ rows, r.id = id ∧ findRow? rows true id = some r) ∨
      findRow? rows true id = none ∧ ∀ r ∈ rows, r.id ≠ id := by
  cases h : findRow? rows true id with
  | none =>
    refine .inr ⟨rfl, fun r hr hid => ?_⟩
    have hskip := List.find?_eq_none.1 h r hr
    simp [hid] at hskip
  | some r =>
    obtain ⟨hmem, hid, -⟩ := findRow?_eq_some h
    exact .inl ⟨r, hmem, hid, rfl⟩

/-- How a turn is answered when it is asked about an id. -/
inductive Answered (t : Turn) (s : Store) (id : String) (now : Instant) : Prop
  | done (r : Row t.kind.Data) (meets : t.Meets s (Text.ofString id) r)
      (answer : t.carryOut s (Text.ofString id) now = .ok (t.after s id now, true))
  | missing (none : ∀ r, ¬ t.Meets s (Text.ofString id) r)
      (answer : t.carryOut s (Text.ofString id) now = .ok (s, false))
  | blocked (blocked : t.Blocked s id)
      (answer : t.carryOut s (Text.ofString id) now = .error .conflict)

/-- A row that is to be deleted is looked for among the live ones. -/
theorem answered_of_live {id : String} (ht : t.deletes = true)
    (h : t.carryOut s (Text.ofString id) now = match findRow? (s.rows t.kind) false id with
      | none => .ok (s, false)
      | some _ => .ok (t.after s id now, true)) : Answered t s id now := by
  obtain ⟨r, hr, rfl, hlive, hfound⟩ | ⟨hnone, hgone⟩ := find_live (s.rows t.kind) id
  · exact .done r ⟨hr, rfl, hlive.trans ht.symm⟩ (by rw [h, hfound])
  · refine .missing (fun r hr => ?_) (by rw [h, hnone])
    have hdead := hgone r hr.mem (Text.ofString_injective hr.id).symm
    exact absurd (hr.life.symm.trans hdead) (by rw [ht]; decide)

/-- A row that is to be brought back is looked for among all, and passed over if it is live. -/
theorem answered_of_any {id : String} (hs : s.Keyed) (ht : t.deletes = false)
    (barred : Row t.kind.Data → Bool)
    (hbarred : ∀ r ∈ s.rows t.kind, r.id = id → r.isLive = false → barred r = true →
      t.Blocked s id)
    (h : t.carryOut s (Text.ofString id) now = match findRow? (s.rows t.kind) true id with
      | none => .ok (s, false)
      | some r =>
        if r.isLive then .ok (s, false)
        else if barred r then .error .conflict
        else .ok (t.after s id now, true)) : Answered t s id now := by
  obtain ⟨r, hr, rfl, hfound⟩ | ⟨hnone, hother⟩ := find_any (s.rows t.kind) id
  · rw [hfound] at h
    dsimp only at h
    split at h
    · rename_i hlive
      refine .missing (fun x hx => ?_) h
      have hsame : x = r := row_unique (hs t.kind) hx.mem hr (Text.ofString_injective hx.id).symm
      exact absurd (hx.life.symm.trans (hsame ▸ hlive)) (by rw [ht]; decide)
    · rename_i hdead
      rw [Bool.not_eq_true] at hdead
      split at h
      · rename_i hbar
        exact .blocked (hbarred r hr rfl hdead hbar) h
      · exact .done r ⟨hr, rfl, hdead.trans ht.symm⟩ h
  · refine .missing (fun r hr => ?_) (by rw [h, hnone])
    exact hother r hr.mem (Text.ofString_injective hr.id).symm

end Turn

/-- A sound store answers every turn about an id. -/
theorem Sound.answered {s : Store} (hs : s.Sound) (t : Turn) (id : String) (now : Instant) :
    t.Answered s id now := by
  obtain ⟨husers, hposts, hkeys⟩ := hs.ready.need
  cases t with
  | deleteUser =>
    refine Turn.answered_of_live rfl ?_
    rw [Turn.carryOut, Store.deleteUser, husers, ok_bind, bind_ofString, ok_bind]
    cases h : findRow? s.users false id <;> simp only [Turn.kind, rows, h] <;> rfl
  | restoreUser =>
    refine Turn.answered_of_any hs.keyed rfl
      (fun r : Row UserData => s.emailClash id r.data.email) ?_ ?_
    · intro r hr hid hdead hbar
      exact ⟨rfl, r, hr, hid, hdead, hs.clash hbar⟩
    · rw [Turn.carryOut, Store.restoreUser, husers, ok_bind, bind_ofString, ok_bind]
      cases h : findRow? s.users true id <;> simp only [Turn.kind, rows, h] <;> rfl
  | deletePost =>
    refine Turn.answered_of_live rfl ?_
    rw [Turn.carryOut, Store.deletePost, hposts, ok_bind, bind_ofString, ok_bind]
    cases h : findRow? s.posts false id <;> simp only [Turn.kind, rows, h] <;> rfl
  | restorePost =>
    refine Turn.answered_of_any hs.keyed rfl (fun _ => false) (by simp) ?_
    rw [Turn.carryOut, Store.restorePost, hposts, ok_bind, bind_ofString, ok_bind]
    cases h : findRow? s.posts true id <;> simp only [Turn.kind, rows, h] <;> rfl
  | deleteKey =>
    refine Turn.answered_of_live rfl ?_
    rw [Turn.carryOut, Store.deleteKey, hkeys, ok_bind, bind_ofString, ok_bind]
    cases h : findRow? s.keys false id <;> simp only [Turn.kind, rows, h] <;> rfl

/-! ### What may become of the rows -/

/-- What may become of the rows when something is asked: each is still there, with its id and the time
of its creation, and is deleted or brought back only if this was asked for under its id and done, and
then nothing else becomes of it. -/
def Passes (now : Instant) (s s' : Store) (asked : Option (Turn × Text)) : Prop :=
  ∀ k, ∀ r ∈ s.rows k, ∃ r' ∈ s'.rows k, Kept r r' ∨
    ∃ t : Turn, asked = some (t, Text.ofString r.id) ∧ t.kind = k ∧ r.isLive = t.deletes ∧
      t.carryOut s (Text.ofString r.id) now = .ok (s', true) ∧ r' = t.turned now r

section Passes

variable {s s' : Store} {now : Instant} {id : Text} {found : Bool}

theorem Keeps.passes (h : Keeps s s') (asked : Option (Turn × Text)) : Passes now s s' asked := by
  intro k r hr
  obtain ⟨r', hr', hkept⟩ := h k r hr
  exact ⟨r', hr', .inl hkept⟩

theorem Turn.passes {t : Turn} (hs : s.Keyed) (h : t.carryOut s id now = .ok (s', found)) :
    Passes now s s' (some (t, id)) := by
  obtain ⟨rfl, -⟩ | ⟨rfl, x, hx, hafter⟩ := Turn.carryOut_eq_ok h
  · exact (Keeps.refl _).passes _
  · intro k r hr
    by_cases hk : k = t.kind
    · subst hk
      rw [hafter, Turn.after, rows_withRows]
      by_cases hid : r.id = x.id
      · obtain rfl := row_unique (hs _) hr hx.mem hid
        refine ⟨_, (mem_reviseRow (hs _) hr).2 (.inl rfl),
          .inr ⟨t, by rw [hx.id], rfl, hx.life, ?_, rfl⟩⟩
        rw [← hx.id, h, hafter]; rfl
      · exact ⟨r, (mem_reviseRow (hs _) hx.mem).2 (.inr ⟨hr, hid⟩), .inl (.refl r)⟩
    · rw [hafter, Turn.after, rows_withRows_of_ne s hk]
      exact ⟨r, hr, .inl (.refl r)⟩

/-- Whatever was asked, a row keeps its id and the time of its creation. -/
theorem Passes.stays {asked : Option (Turn × Text)} (h : Passes now s s' asked) (k : RecordKind) :
    ∀ r ∈ s.rows k, ∃ r' ∈ s'.rows k, r'.id = r.id ∧ r'.created = r.created := by
  intro r hr
  obtain ⟨r', hr', hkept | ⟨t, -, -, -, -, rfl⟩⟩ := h k r hr
  · exact ⟨r', hr', hkept.id, hkept.created⟩
  · refine ⟨_, hr', ?_⟩
    rw [Turn.turned]; split <;> exact ⟨rfl, rfl⟩

/-- A row that stands deleted is brought back as it was, up to the time of the last change. -/
theorem Turn.brings_back {k : RecordKind} {r : Row k.Data} {t : Turn} {gone back : Instant}
    (hs : s.Keyed) (hlive : r.isLive = true) (hr : softDeleted gone r ∈ s.rows k)
    (hk : t.kind = k) (ht : t.deletes = false)
    (h : t.carryOut s (Text.ofString r.id) back = .ok (s', true)) :
    s' = s.withRows k
      (reviseRow (s.rows k) r.id fun _ => { r with updated := some (.ofInstant back) }) := by
  subst hk
  obtain ⟨-, h⟩ | ⟨-, x, hx, rfl⟩ := carryOut_eq_ok h
  · cases h
  · have hid : x.id = r.id := (Text.ofString_injective hx.id).symm
    rw [after, hid]
    congr 1
    refine List.map_congr_left fun y hy => ?_
    split
    · rename_i hyid
      have hsame : y = softDeleted gone r := row_unique (hs _) hy hr (beq_iff_eq.1 hyid)
      have hnone : r.deleted = none := Option.isNone_iff_eq_none.1 hlive
      rw [hsame, turned, if_neg (by rw [ht]; decide), restored, softDeleted, hnone]
    · rfl

/-- Deleting a row and bringing it back is undone but for the time of the last change of that row. -/
theorem Turn.returns {k : RecordKind} {r : Row k.Data} {del res : Turn} {gone back : Instant}
    {mid : Store} (hs : s.Keyed) (hr : r ∈ s.rows k) (hdk : del.kind = k) (hd : del.deletes = true)
    (hrk : res.kind = k) (hres : res.deletes = false)
    (hgone : del.carryOut s (Text.ofString r.id) gone = .ok (mid, true))
    (hback : res.carryOut mid (Text.ofString r.id) back = .ok (s', true)) :
    s' = s.withRows k
      (reviseRow (s.rows k) r.id fun x => { x with updated := some (.ofInstant back) }) := by
  subst hdk
  obtain ⟨-, h⟩ | ⟨-, x, hx, rfl⟩ := carryOut_eq_ok hgone
  · cases h
  · obtain rfl : x = r := row_unique (hs _) hx.mem hr (Text.ofString_injective hx.id).symm
    have hturned : del.turned gone x = softDeleted gone x := by rw [turned, if_pos hd]
    have hmid : softDeleted gone x ∈ (del.after s x.id gone).rows del.kind := by
      rw [after, rows_withRows, ← hturned]; exact (mem_reviseRow (hs _) hr).2 (.inl rfl)
    have hkeyed : (del.after s x.id gone).Keyed :=
      hs.withRows (by rw [ids_reviseRow (keepsId_turned del gone)]; exact hs _)
    rw [brings_back hkeyed (hx.life.trans hd) hmid hrk hres hback, after, withRows_withRows,
      rows_withRows]
    congr 1
    rw [reviseRow, reviseRow, reviseRow, List.map_map]
    refine List.map_congr_left fun y hy => ?_
    rw [Function.comp_apply]
    by_cases hid : y.id = x.id
    · obtain rfl := row_unique (hs _) hy hr hid
      rw [if_pos (beq_self_eq_true _), if_pos (beq_iff_eq.2 (keepsId_turned del gone y)),
        if_pos (beq_self_eq_true _)]
    · have hne : ¬ (y.id == x.id) = true := by simpa using hid
      rw [if_neg hne, if_neg hne, if_neg hne]

end Passes

end Store

end Pressroom

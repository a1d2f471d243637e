import Pressroom.Proofs.Store.Sound

/-!
What the schema decides. Under another schema with the same tables the store answers as before and
writes the same rows, with one exception: an operation that gives a live user an address is refused if
the unique index over the live users takes it for that of another one, and schemas may differ in how
that index compares addresses. `Watched` says so once for all operations of this kind.
-/
namespace Pressroom

/-- Two schemas with tables of the same names. -/
def Schema.SameTables (a b : Schema) : Prop := ∀ name, a.hasTable name = b.hasTable name

namespace Store

/-- The same rows under another schema. -/
def under (s : Store) (schema : Schema) : Store := { s with schema }

/-- Two stores with the same rows. -/
def SameRows (a b : Store) : Prop := a.users = b.users ∧ a.posts = b.posts ∧ a.keys = b.keys

/-- The outcome of a write, with what it leaves under another schema. -/
def moved {β : Type} (schema : Schema) (r : StoreResult (Store × β)) : StoreResult (Store × β) :=
  r.map fun x => (x.1.under schema, x.2)

variable {s : Store} {schema : Schema}

theorem need_under (h : schema.SameTables s.schema) (table : String) :
    (s.under schema).need table = s.need table := by
  rw [need, need, under, h table]

/-! ### Writes that no index looks at -/

section Writes

variable (h : schema.SameTables s.schema)
include h

theorem updatePassword_under (id : Text) (now : Instant) (password : Option Text) :
    (s.under schema).updatePassword id now password
      = moved schema (s.updatePassword id now password) := by
  simp only [moved, updatePassword, need_under h, map_bind]
  refine bind_congr fun _ => bind_congr fun hash => bind_congr fun key => ?_
  rw [under]
  cases findRow? s.users false key with
  | none => rfl
  | some r => cases hash <;> rfl

theorem deleteUser_under (id : Text) (now : Instant) :
    (s.under schema).deleteUser id now = moved schema (s.deleteUser id now) := by
  simp only [moved, deleteUser, need_under h, map_bind]
  refine bind_congr fun _ => bind_congr fun key => ?_
  rw [under]
  cases findRow? s.users false key <;> rfl

theorem createPost_under (id : String) (now : Instant) (n : PostParts) :
    (s.under schema).createPost id now n = moved schema (s.createPost id now n) := by
  simp only [moved, createPost, need_under h, map_bind]
  refine bind_congr fun _ => bind_congr fun data => ?_
  rw [under, apply_ite (Except.map _)]
  rfl

theorem updatePost_under (id : Text) (now : Instant) (c : PostChanges) :
    (s.under schema).updatePost id now c = moved schema (s.updatePost id now c) := by
  rw [moved, updatePost, updatePost]
  split
  · simp only [post?, need_under h, map_bind]
    rfl
  · simp only [need_under h, map_bind]
    refine bind_congr fun _ => bind_congr fun type => bind_congr fun body =>
      bind_congr fun title => bind_congr fun author => bind_congr fun key => ?_
    rw [under]
    cases findRow? s.posts false key <;> rfl

theorem deletePost_under (id : Text) (now : Instant) :
    (s.under schema).deletePost id now = moved schema (s.deletePost id now) := by
  simp only [moved, deletePost, need_under h, map_bind]
  refine bind_congr fun _ => bind_congr fun key => ?_
  rw [under]
  cases findRow? s.posts false key <;> rfl

theorem restorePost_under (id : Text) (now : Instant) :
    (s.under schema).restorePost id now = moved schema (s.restorePost id now) := by
  simp only [moved, restorePost, need_under h, map_bind]
  refine bind_congr fun _ => bind_congr fun key => ?_
  rw [under]
  cases findRow? s.posts true key with
  | none => rfl
  | some r => dsimp only; cases r.isLive <;> rfl

theorem createKey_under (id : String) (now : Instant) (n : KeyParts) :
    (s.under schema).createKey id now n = moved schema (s.createKey id now n) := by
  simp only [moved, createKey, need_under h, map_bind]
  refine bind_congr fun _ => bind_congr fun data => ?_
  rw [apply_ite (Except.map _)]
  cases data.digest <;> rfl

theorem deleteKey_under (id : Text) (now : Instant) :
    (s.under schema).deleteKey id now = moved schema (s.deleteKey id now) := by
  simp only [moved, deleteKey, need_under h, map_bind]
  refine bind_congr fun _ => bind_congr fun key => ?_
  rw [under]
  cases findRow? s.keys false key <;> rfl

end Writes

/-! ### Addresses under a collation -/

/-- Live users have different addresses under a collation. -/
def AddressesApart (k : Collation) (users : List (Row UserData)) : Prop :=
  ∀ a ∈ users, ∀ b ∈ users, a.isLive = true → b.isLive = true →
    sameUnder k a.data.email b.data.email = true → a = b

theorem sameUnder_symm {k : Collation} {a b : String} (h : sameUnder k a b = true) :
    sameUnder k b a = true := by
  cases k with
  | exact => exact beq_iff_eq.2 (beq_iff_eq.1 h).symm
  | noCase => exact noCaseSame_symm h

theorem AddressesApart.exact {users : List (Row UserData)} (h : AddressesApart .noCase users) :
    AddressesApart .exact users := by
  intro a ha b hb hla hlb hsame
  have hemail : a.data.email = b.data.email := beq_iff_eq.1 hsame
  refine h a ha b hb hla hlb ?_
  rw [hemail]
  exact (noCaseSame_iff _ _).2 rfl

/-! ### Operations that give an address -/

/-- How an operation that may give a live user an address depends on the schema: not at all, without
a change of the store; or it writes a row of a live user if the index finds no clash for it. -/
inductive Watched {β : Type} (s : Store) (op : Store → StoreResult (Store × β)) : Prop
  | settled (r : StoreResult β)
      (h : ∀ schema : Schema, schema.SameTables s.schema →
        op (s.under schema) = r.map fun b => (s.under schema, b))
  | offered (row : Row UserData) (users : List (Row UserData)) (b : β) (live : row.isLive = true)
      (mem : ∀ r, r ∈ users ↔ r = row ∨ r ∈ s.users ∧ r.id ≠ row.id)
      (h : ∀ schema : Schema, schema.SameTables s.schema → op (s.under schema)
        = if (s.under schema).emailClash row.id row.data.email then .error .conflict
          else .ok ({ s.under schema with users }, b))

/-- The index finds a clash for a row exactly if the row would end the difference of addresses. -/
theorem emailClash_under_iff {k : Collation} (hk : schema.liveUnique? "users" "email" = some k)
    (hapart : AddressesApart k s.users) {row : Row UserData} {users : List (Row UserData)}
    (hlive : row.isLive = true) (hmem : ∀ r, r ∈ users ↔ r = row ∨ r ∈ s.users ∧ r.id ≠ row.id) :
    (s.under schema).emailClash row.id row.data.email = true ↔ ¬ AddressesApart k users := by
  simp only [emailClash, under, hk, List.any_eq_true, Bool.and_eq_true, bne_iff_ne]
  constructor
  · rintro ⟨r, hr, ⟨hlr, hid⟩, hsame⟩ hafter
    have hrow := hafter r ((hmem r).2 (.inr ⟨hr, hid⟩)) row ((hmem row).2 (.inl rfl)) hlr hlive hsame
    exact hid (congrArg Entry.id hrow)
  · intro hends
    by_contra hnone
    refine hends fun a ha b hb hla hlb hsame => ?_
    rcases (hmem a).1 ha with rfl | ⟨ha, hida⟩ <;> rcases (hmem b).1 hb with rfl | ⟨hb, hidb⟩
    · rfl
    · exact absurd ⟨b, hb, ⟨hlb, hidb⟩, sameUnder_symm hsame⟩ hnone
    · exact absurd ⟨a, ha, ⟨hla, hida⟩, hsame⟩ hnone
    · exact hapart a ha b hb hla hlb hsame

/-- Some live users have addresses that differ only in the case of ASCII letters, and no two have the
same address. -/
def DifferByCase (users : List (Row UserData)) : Prop :=
  AddressesApart .exact users ∧ ¬ AddressesApart .noCase users

/-- The users after an operation; one that fails leaves them as they were. -/
def usersAfter {β : Type} (s : Store) : StoreResult (Store × β) → List (Row UserData)
  | .error _ => s.users
  | .ok x => x.1.users

/-- An index that compares exactly in place of one that does not look at the case makes a difference
for an operation exactly if the operation, where no index looks, leaves addresses that differ by case:
then the stricter index refuses it and the other does not. -/
theorem Watched.decided {β : Type} {op : Store → StoreResult (Store × β)} (h : Watched s op)
    (hapart : AddressesApart .noCase s.users)
    (hstrict : s.schema.liveUnique? "users" "email" = some .noCase)
    (hschema : schema.SameTables s.schema)
    (hloose : schema.liveUnique? "users" "email" = some .exact) {bare : Schema}
    (hbare : bare.SameTables s.schema) (hnone : bare.liveUnique? "users" "email" = none) :
    ¬ DifferByCase (usersAfter s (op (s.under bare))) ∧ op (s.under schema) = moved schema (op s) ∨
      DifferByCase (usersAfter s (op (s.under bare))) ∧ op s = .error .conflict ∧
        ∃ x, op (s.under schema) = .ok x := by
  have hself : s.schema.SameTables s.schema := fun _ => rfl
  cases h with
  | settled r h =>
    refine .inl ⟨?_, ?_⟩
    · rw [h bare hbare]
      rintro ⟨-, hdiffer⟩
      cases r <;> exact hdiffer hapart
    · rw [h schema hschema, show op s = _ from h s.schema hself]
      cases r <;> rfl
  | offered row users b live mem h =>
    have hfree : (s.under bare).emailClash row.id row.data.email = false := by
      rw [emailClash, under, hnone]
    have hstrictly := emailClash_under_iff (s := s) hstrict hapart live mem
    have hloosely := emailClash_under_iff (s := s) hloose hapart.exact live mem
    have hop : op s = _ := h s.schema hself
    rw [h bare hbare, hfree, if_neg (by decide), h schema hschema, hop]
    change ¬ DifferByCase users ∧ _ ∨ DifferByCase users ∧ _
    by_cases happart : AddressesApart .noCase users
    · have hnoclash := mt hstrictly.1 (not_not.2 happart)
      have hnoclash' := mt hloosely.1 (not_not.2 happart.exact)
      rw [if_neg hnoclash, if_neg hnoclash']
      exact .inl ⟨fun hdiffer => hdiffer.2 happart, rfl⟩
    · rw [if_pos (hstrictly.2 happart)]
      by_cases hexact : AddressesApart .exact users
      · rw [if_neg (mt hloosely.1 (not_not.2 hexact))]
        exact .inr ⟨⟨hexact, happart⟩, rfl, _, rfl⟩
      · rw [if_pos (hloosely.2 hexact)]
        exact .inl ⟨fun hdiffer => hexact hdiffer.1, rfl⟩

theorem Watched.bind {α β : Type} {x : StoreResult α} {f : α → Store → StoreResult (Store × β)}
    (h : ∀ a, x = .ok a → Watched s (f a)) : Watched s fun t => x >>= fun a => f a t := by
  cases x with
  | error fault => exact .settled (.error fault) fun _ _ => rfl
  | ok a => exact h a rfl

theorem Watched.need {β : Type} {f : Store → StoreResult (Store × β)} (table : String)
    (h : Watched s f) : Watched s fun t => t.need table >>= fun _ => f t := by
  cases hneed : s.need table with
  | error fault =>
    refine .settled (.error fault) fun schema hschema => ?_
    rw [need_under hschema, hneed]
    rfl
  | ok _ =>
    have hopen : ∀ schema : Schema, schema.SameTables s.schema →
        ((s.under schema).need table >>= fun _ => f (s.under schema)) = f (s.under schema) := by
      intro schema hschema
      rw [need_under hschema, hneed]
      rfl
    cases h with
    | settled r h => exact .settled r fun schema hschema => (hopen schema hschema).trans (h schema hschema)
    | offered row users b live mem h =>
      exact .offered row users b live mem fun schema hschema =>
        (hopen schema hschema).trans (h schema hschema)

theorem createUser_watched (id : String) (now : Instant) (n : NewUser) :
    Watched s fun t => t.createUser id now n := by
  refine .need "users" (.bind fun data _ => ?_)
  by_cases htaken : (s.users.any fun r => r.id == id) = true
  · refine .settled (.error .conflict) fun schema _ => ?_
    rw [under, htaken]
    rfl
  · have hfresh : ∀ r ∈ s.users, r.id ≠ id := by simpa using htaken
    rw [Bool.not_eq_true] at htaken
    refine .offered (.newRow id data now) (s.users ++ [.newRow id data now]) (.newItem id data now) rfl
      (fun r => ?_) fun schema _ => ?_
    · rw [List.mem_append, List.mem_singleton, or_comm]
      exact or_congr_right (and_iff_left_of_imp (hfresh r)).symm
    · change (if (s.users.any fun r => r.id == id) || (s.under schema).emailClash id data.email then _
        else _) = _
      rw [htaken, Bool.false_or]
      rfl

theorem updateUser_watched (hn : (s.users.map (·.id)).Nodup) (id : Text) (now : Instant)
    (c : UserChanges) : Watched s fun t => t.updateUser id now c := by
  simp only [updateUser]
  by_cases hempty : c.isEmpty = true
  · simp only [if_pos hempty]
    refine .settled ((s.user? id false).map (·.isSome)) fun schema hschema => ?_
    have hask : (s.under schema).user? id false = s.user? id false := by
      simp only [user?, need_under hschema]
      rfl
    rw [hask]
    cases s.user? id false <;> rfl
  · simp only [if_neg hempty]
    refine .need "users" (.bind fun fullname _ => .bind fun email _ => .bind fun permissions _ =>
      .bind fun key _ => ?_)
    cases hr : findRow? s.users false key with
    | none =>
      refine .settled (.ok false) fun schema _ => ?_
      rw [under, hr]
      rfl
    | some r =>
      obtain ⟨hmem, rfl, hlive⟩ := findRow?_live hr
      by_cases hparts : ∃ newFullname newEmail newPermissions,
          changedPart r.data.fullname fullname = some newFullname ∧
            changedPart r.data.email email = some newEmail ∧
              changedPart r.data.permissions permissions = some newPermissions
      · obtain ⟨newFullname, newEmail, newPermissions, hfullname, hemail, hpermissions⟩ := hparts
        let change := fun (u : UserData) =>
          { u with fullname := newFullname, email := newEmail, permissions := newPermissions }
        refine .offered (revised now change r) (reviseRow s.users r.id (revised now change)) true hlive
          (fun x => mem_reviseRow hn hmem) fun schema _ => ?_
        rw [under, hr]
        dsimp only
        rw [hfullname, hemail, hpermissions]
        rfl
      · refine .settled (.error .conflict) fun schema _ => ?_
        rw [under, hr]
        dsimp only
        split
        · rename_i hfullname hemail hpermissions
          exact absurd ⟨_, _, _, hfullname, hemail, hpermissions⟩ hparts
        · rfl

theorem restoreUser_watched (hn : (s.users.map (·.id)).Nodup) (id : Text) (now : Instant) :
    Watched s fun t => t.restoreUser id now := by
  refine .need "users" (.bind fun key _ => ?_)
  cases hr : findRow? s.users true key with
  | none =>
    refine .settled (.ok false) fun schema _ => ?_
    rw [under, hr]
    rfl
  | some r =>
    obtain ⟨hmem, rfl, -⟩ := findRow?_eq_some hr
    by_cases hlive : r.isLive = true
    · refine .settled (.ok false) fun schema _ => ?_
      rw [under, hr]
      dsimp only
      rw [if_pos hlive]
      rfl
    · refine .offered (restored now r) (reviseRow s.users r.id (restored now)) true rfl
        (fun x => mem_reviseRow hn hmem) fun schema _ => ?_
      rw [under, hr]
      dsimp only
      rw [if_neg hlive]
      rfl

end Store

end Pressroom

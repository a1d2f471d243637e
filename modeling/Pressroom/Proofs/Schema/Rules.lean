import Pressroom.Proofs.Store.Sound
import Pressroom.Proofs.Store.Veil

/-!
What a schema asks of the rows of a table, read off its columns and indexes: the columns that have to
be filled are filled, no other row has the same primary key or the same values in columns that are
unique together, and a unique index finds no two of the rows that it covers alike. The tables that a
start creates and those of the first migration are written down apart; their columns treat values
alike, and what both ask is worked out here, down to the collation of one index. The operations of the
store refuse exactly the rows that the schema does not admit.
-/
namespace Pressroom

/-! ### Columns -/

/-- What a column makes of the values that it is given. -/
inductive Affinity where
  | integer
  | text
  | blob
  | real
  | numeric
  deriving DecidableEq

/-- The type of a column is only looked at for what stands in it, in this order. -/
def Column.affinity (c : Column) : Affinity :=
  let names := fun (part : String) =>
    (c.type.toList.map Char.toUpper).tails.any part.toList.isPrefixOf
  if names "INT" then .integer
  else if names "CHAR" || names "CLOB" || names "TEXT" then .text
  else if names "BLOB" || c.type.isEmpty then .blob
  else if names "REAL" || names "FLOA" || names "DOUB" then .real
  else .numeric

/-! ### Rows -/

/-- The value of a row in a column. -/
inductive Cell where
  | missing
  | text (t : String)
  | whole (n : Int)
  | mark (m : Mark)
  deriving DecidableEq

namespace Cell

def ofText? (t : Option String) : Cell := t.elim missing text

def ofWhole? (n : Option Int) : Cell := n.elim missing whole

def ofMark? (m : Option Mark) : Cell := m.elim missing mark

/-- Values that a unique index takes for the same. A missing one is never the same as another. -/
def sameUnder (k : Collation) : Cell → Cell → Bool
  | text a, text b => Store.sameUnder k a b
  | whole a, whole b => a == b
  | mark a, mark b => a == b
  | _, _ => false

@[simp]
theorem ofText?_filled (t : Option String) : (ofText? t != missing) = t.isSome := by
  cases t <;> rfl

@[simp]
theorem ofWhole?_filled (n : Option Int) : (ofWhole? n != missing) = n.isSome := by
  cases n <;> rfl

@[simp]
theorem ofMark?_missing (m : Option Mark) : (ofMark? m == missing) = m.isNone := by
  cases m <;> rfl

@[simp]
theorem sameUnder_text (k : Collation) (a : String) (t : Option String) :
    sameUnder k (text a) (ofText? t) = t.any (Store.sameUnder k a) := by
  cases t <;> rfl

end Cell

/-- A row by its columns. -/
abbrev Cells := String → Cell

/-- A row with its id and times as columns beside those of its data. -/
def Entry.cells (e : Row Cells) : Cells
  | "id" => .text e.id
  | "created_at" => .ofMark? e.created
  | "updated_at" => .ofMark? e.updated
  | "deleted_at" => .ofMark? e.deleted
  | column => e.data column

/-- The data of a user by columns, where any part may be missing. -/
def userCells (fullname email password : Option String) (permissions : Option Int) : Cells
  | "fullname" => .ofText? fullname
  | "email" => .ofText? email
  | "password" => .ofText? password
  | "permissions" => .ofWhole? permissions
  | _ => .missing

def UserData.cells (d : UserData) : Cells :=
  userCells (some d.fullname) (some d.email) (some d.password) (some d.permissions)

def PostData.cells (d : PostData) : Cells
  | "type" => .ofText? d.type
  | "body" => .ofText? d.body
  | "title" => .ofText? d.title
  | "author_id" => .ofText? d.author
  | _ => .missing

def KeyData.cells (d : KeyData) : Cells
  | "key" => .ofText? d.digest
  | "owner_email" => .ofText? d.owner
  | "expires_at" => .ofWhole? d.expires
  | _ => .missing

/-- The rows of a table by columns. -/
def rowCells {α : Type} (cells : α → Cells) (rows : List (Row α)) : List Cells :=
  rows.map fun r => (r.mapData cells).cells

/-! ### What a schema admits -/

/-- Rows that are the same in all of some columns. -/
def sameIn (k : Collation) (columns : List String) (a b : Cells) : Bool :=
  columns.all fun c => Cell.sameUnder k (a c) (b c)

/-- A table admits a row beside others: its columns are filled where they have to be, and the row
differs from the others in the primary key and in what is unique. -/
def TableShape.admits (t : TableShape) (others : List Cells) (row : Cells) : Bool :=
  (t.columns.all fun c => !c.notNull || row c.name != .missing) &&
    ((t.columns.filter (·.primary)).map (fun c => [c.name]) ++ t.unique).all fun columns =>
      !others.any fun o => sameIn .exact columns o row

/-- The rows that an index looks at. -/
def Index.covers (i : Index) (row : Cells) : Bool := !i.liveOnly || row "deleted_at" == .missing

/-- A unique index admits a row that it does not cover, and else one that differs from the others that
it covers. -/
def Index.admits (i : Index) (others : List Cells) (row : Cells) : Bool :=
  !i.unique || !i.covers row || !others.any fun o => i.covers o && sameIn i.collation i.columns o row

namespace Schema

/-- A schema admits a row of a table beside the others if the table and its indexes do. -/
def admits (s : Schema) (table : String) (others : List Cells) (row : Cells) : Bool :=
  ((s.tables.filter fun t => t.name == table).all fun t => t.admits others row) &&
    (s.indexes.filter fun i => i.table == table).all fun i => i.admits others row

/-- The schema that the first migration creates. -/
def Migration.schema : Schema where
  tables := [users, posts, keys]
  indexes := emailIndex .exact :: ["users", "posts", "api_keys"].flatMap searchIndexes

theorem Migration.carryOutAll?_empty : Schema.empty.carryOutAll? upgrade = some schema := rfl

/-- The two schemas that are created, and how each of them compares addresses. -/
inductive Created : Schema → Collation → Prop
  | start : Created Startup.schema .noCase
  | migration : Created Migration.schema .exact

/-- The columns of both have the same names in the same order and treat values alike, and are unique
together in the same ways. -/
theorem same_columns :
    Startup.schema.tables.map (fun t =>
        (t.name, t.unique, t.columns.map fun c => (c.name, c.affinity, c.primary)))
      = Migration.schema.tables.map fun t =>
        (t.name, t.unique, t.columns.map fun c => (c.name, c.affinity, c.primary)) := by
  decide +kernel

theorem Created.liveUnique? {schema : Schema} {k : Collation} (h : Created schema k) :
    schema.liveUnique? "users" "email" = some k := by
  cases h <;> rfl

variable {schema : Schema} {k : Collation}

section Admits

attribute [local simp] Startup.schema Startup.users Startup.posts Startup.keys Startup.id
  Migration.schema Migration.users Migration.posts Migration.keys Migration.id Column.filled
  Column.plain timeColumns searchIndexes emailIndex Index.search TableShape.admits Index.admits
  Index.covers sameIn rowCells Entry.cells Entry.mapData

variable (h : Created schema k) (id : String) (created updated deleted : Option Mark)
include h

/-- A user is admitted whose parts are all there, whose id is new and whose address no live user has,
as far as the index sees. -/
theorem Created.admits_user (others : List (Row UserData)) (fullname email password : Option String)
    (permissions : Option Int) : schema.admits "users" (rowCells UserData.cells others)
        (Entry.cells ⟨id, userCells fullname email password permissions, created, updated, deleted⟩)
      = (fullname.isSome && email.isSome && password.isSome && permissions.isSome &&
        !(others.any fun r => r.id == id) && (deleted.isSome ||
          !others.any fun r => r.isLive && email.any (Store.sameUnder k r.data.email))) := by
  have hid : ∀ r : Row UserData, Cell.sameUnder .exact (.text r.id) (.text id) = (r.id == id) :=
    fun _ => rfl
  have hemail : ∀ d : UserData, d.cells "email" = .text d.email := fun _ => rfl
  cases h <;>
    simp [admits, Function.comp_def, userCells, Entry.isLive, hid, hemail, Bool.and_assoc]

/-- A post is admitted whose id is new. -/
theorem Created.admits_post (others : List (Row PostData)) (data : PostData) :
    schema.admits "posts" (rowCells PostData.cells others)
        (Entry.cells ⟨id, data.cells, created, updated, deleted⟩)
      = !(others.any fun r => r.id == id) := by
  have hid : ∀ r : Row PostData, Cell.sameUnder .exact (.text r.id) (.text id) = (r.id == id) :=
    fun _ => rfl
  cases h <;> simp [admits, Function.comp_def, hid]

/-- A key is admitted whose id is new and whose digest no other key has, live or deleted. -/
theorem Created.admits_key (others : List (Row KeyData)) (data : KeyData) :
    schema.admits "api_keys" (rowCells KeyData.cells others)
        (Entry.cells ⟨id, data.cells, created, updated, deleted⟩)
      = (!(others.any fun r => r.id == id) &&
        !others.any fun r => data.digest.isSome && r.data.digest == data.digest) := by
  have hid : ∀ r : Row KeyData, Cell.sameUnder .exact (.text r.id) (.text id) = (r.id == id) :=
    fun _ => rfl
  have hdigest : ∀ r : Row KeyData, Cell.sameUnder .exact (r.data.cells "key") (data.cells "key")
      = (data.digest.isSome && r.data.digest == data.digest) := by
    intro r
    change Cell.sameUnder .exact (.ofText? r.data.digest) (.ofText? data.digest) = _
    cases r.data.digest <;> cases data.digest <;> rfl
  cases h <;> simp [admits, Function.comp_def, hid, hdigest]

end Admits

end Schema

namespace Store

open Schema

theorem allSome_iff {α β γ δ : Type} {a : Option α} {b : Option β} {c : Option γ} {d : Option δ} :
    (a.isSome && b.isSome && c.isSome && d.isSome) = true ↔
      ∃ w x y z, a = some w ∧ b = some x ∧ c = some y ∧ d = some z := by
  cases a <;> cases b <;> cases c <;> cases d <;> simp

/-- A change whose parts are all there is refused exactly for a clash, and else for the part that is
missing. -/
theorem parts_refused_iff {α : Type} {fullname email : Option String} {password : String}
    {permissions : Option Int} {clash : String → Bool}
    {done : String → String → Int → StoreResult α}
    (hdone : ∀ a b c, done a b c ≠ .error .conflict) :
    (match fullname, email, permissions with
      | some a, some b, some c => if clash b then .error .conflict else done a b c
      | _, _, _ => .error .conflict : StoreResult α) = .error .conflict ↔
    (fullname.isSome && email.isSome && (some password).isSome && permissions.isSome &&
      !email.any clash) = false := by
  cases fullname with
  | none => simp
  | some a =>
    cases email with
    | none => simp
    | some b =>
      cases permissions with
      | none => simp
      | some c => cases hclash : clash b <;> simp [hclash, hdone a b c]

variable {s : Store} {k : Collation} (h : Created s.schema k) {now : Instant} {id : Text}
include h

/-! ### What the store refuses -/

/-- The index finds a clash for the address of a user if another live user has it. -/
theorem emailClash_created (key email : String) : s.emailClash key email
    = (s.users.filter fun r => r.id != key).any fun r =>
        r.isLive && sameUnder k r.data.email email := by
  rw [emailClash, h.liveUnique?, List.any_filter]
  refine congrArg (fun p => s.users.any p) (funext fun r => ?_)
  cases r.isLive <;> simp

/-- A new user is refused exactly if the schema does not admit the row beside those that are there. -/
theorem createUser_refused_iff (hneed : s.need "users" = .ok ()) {n : NewUser}
    {fullname email password : Option String} {permissions : Option Int}
    (hfullname : bindOption n.fullname = .ok fullname) (hemail : bindOption n.email = .ok email)
    (hpassword : bindOption n.password = .ok password)
    (hpermissions : bindWholeOption n.permissions = .ok permissions) (newId : String) :
    s.createUser newId now n = .error .conflict ↔
      s.schema.admits "users" (rowCells UserData.cells s.users)
        (Entry.cells (.newRow newId (userCells fullname email password permissions) now)) = false := by
  rw [Entry.newRow, h.admits_user, createUser, hneed, bindUser, hfullname, hemail, hpassword,
    hpermissions]
  by_cases hparts : ∃ a b c d, fullname = some a ∧ email = some b ∧ password = some c ∧
      permissions = some d
  · obtain ⟨a, b, c, d, rfl, rfl, rfl, rfl⟩ := hparts
    change (if (s.users.any fun r => r.id == newId) || s.emailClash newId b then _ else _) = _ ↔ _
    rw [emailClash_created h]
    cases hid : s.users.any fun r => r.id == newId with
    | true => simp
    | false =>
      have hothers : (s.users.filter fun r => r.id != newId) = s.users := by
        rw [List.filter_eq_self]
        intro r hr
        rw [List.any_eq_false] at hid
        simpa using hid r hr
      rw [hothers]
      simp
  · have hmissing : (fullname.isSome && email.isSome && password.isSome && permissions.isSome)
        = false := by
      rw [Bool.eq_false_iff]
      exact mt allSome_iff.1 hparts
    rw [hmissing]
    refine iff_of_true ?_ rfl
    simp only [ok_bind]
    split
    · exact absurd ⟨_, _, _, _, rfl, rfl, rfl, rfl⟩ hparts
    · rfl

/-- The row of a user after a change that may take parts away. -/
def changedRow (r : Row UserData) (now : Instant) (fullname email password : Option String)
    (permissions : Option Int) (deleted : Option Mark) : Row Cells :=
  ⟨r.id, userCells fullname email password permissions, r.created, some (.ofInstant now), deleted⟩

/-- A changed row is admitted beside the others if its parts are all there and the index finds no
clash for its address. -/
theorem admits_changedRow (r : Row UserData) (fullname email password : Option String)
    (permissions : Option Int) : s.schema.admits "users"
        (rowCells UserData.cells (s.users.filter fun x => x.id != r.id))
        (changedRow r now fullname email password permissions none).cells
      = (fullname.isSome && email.isSome && password.isSome && permissions.isSome &&
        !email.any (s.emailClash r.id)) := by
  have hid : ((s.users.filter fun x => x.id != r.id).any fun x => x.id == r.id) = false := by
    simp
  rw [changedRow, h.admits_user, hid]
  cases email with
  | none => simp
  | some email => simp [emailClash_created h]

/-- A change of a user is refused exactly if the schema does not admit the changed row. -/
theorem updateUser_refused_iff (hneed : s.need "users" = .ok ()) {c : UserChanges}
    (hsome : c.isEmpty = false) {fullname email : Option (Option String)}
    (hfullname : bindChange c.fullname = .ok fullname) (hemail : bindChange c.email = .ok email)
    (hpermissions : ∀ p, c.permissions = some p → bindWholeOption p = .ok p) {r : Row UserData}
    (hid : bind id = .ok r.id) (hr : findRow? s.users false r.id = some r) :
    s.updateUser id now c = .error .conflict ↔ s.schema.admits "users"
        (rowCells UserData.cells (s.users.filter fun x => x.id != r.id))
        (changedRow r now (changedPart r.data.fullname fullname) (changedPart r.data.email email)
          (some r.data.password) (changedPart r.data.permissions c.permissions) none).cells = false := by
  rw [admits_changedRow h, updateUser, if_neg (by rw [hsome]; decide), hneed, hfullname, hemail]
  simp only [ok_bind]
  generalize c.permissions = permissions at hpermissions ⊢
  cases permissions with
  | none =>
    simp only [ok_bind, hid, hr]
    exact parts_refused_iff fun _ _ _ hdone => by cases hdone
  | some p =>
    have hp : Except.map some (bindWholeOption p) = (.ok (some p) : StoreResult _) := by
      rw [hpermissions p rfl]; rfl
    simp only [hp, ok_bind, hid, hr]
    exact parts_refused_iff fun _ _ _ hdone => by cases hdone

/-- A new password is refused exactly if the schema does not admit the changed row. -/
theorem updatePassword_refused_iff (hneed : s.need "users" = .ok ()) {password : Option Text}
    {hash : Option String} (hhash : bindOption password = .ok hash) {r : Row UserData}
    (hid : bind id = .ok r.id) (hr : findRow? s.users false r.id = some r)
    (hfree : s.emailClash r.id r.data.email = false) :
    s.updatePassword id now password = .error .conflict ↔ s.schema.admits "users"
        (rowCells UserData.cells (s.users.filter fun x => x.id != r.id))
        (changedRow r now (some r.data.fullname) (some r.data.email) hash
          (some r.data.permissions) none).cells = false := by
  rw [admits_changedRow h, updatePassword, hneed, hhash, hid]
  simp only [ok_bind]
  rw [hr]
  cases hash with
  | none => simp
  | some hash => simp [hfree, pure, Except.pure]

/-- A deleted user is kept away exactly if the schema does not admit the row without its deletion. -/
theorem restoreUser_refused_iff (hneed : s.need "users" = .ok ()) {r : Row UserData}
    (hid : bind id = .ok r.id) (hr : findRow? s.users true r.id = some r)
    (hgone : r.isLive = false) :
    s.restoreUser id now = .error .conflict ↔ s.schema.admits "users"
        (rowCells UserData.cells (s.users.filter fun x => x.id != r.id))
        (changedRow r now (some r.data.fullname) (some r.data.email) (some r.data.password)
          (some r.data.permissions) none).cells = false := by
  rw [admits_changedRow h, restoreUser, hneed, hid]
  simp only [ok_bind]
  rw [hr]
  cases hclash : s.emailClash r.id r.data.email <;> simp [hgone, hclash, pure, Except.pure]

/-- A new post is refused exactly if the schema does not admit the row. -/
theorem createPost_refused_iff (hneed : s.need "posts" = .ok ()) {n : PostParts} {data : PostData}
    (hdata : bindPost n = .ok data) (newId : String) :
    s.createPost newId now n = .error .conflict ↔ s.schema.admits "posts"
        (rowCells PostData.cells s.posts) (Entry.cells (.newRow newId data.cells now)) = false := by
  rw [Entry.newRow, h.admits_post, createPost, hneed, hdata]
  simp only [ok_bind]
  cases s.posts.any fun r => r.id == newId <;> simp

/-- A new key is refused exactly if the schema does not admit the row. -/
theorem createKey_refused_iff (hneed : s.need "api_keys" = .ok ()) {n : KeyParts} {data : KeyData}
    (hdata : bindKey n = .ok data) (newId : String) :
    s.createKey newId now n = .error .conflict ↔ s.schema.admits "api_keys"
        (rowCells KeyData.cells s.keys) (Entry.cells (.newRow newId data.cells now)) = false := by
  have htaken : (s.keys.any fun r => data.digest.isSome && r.data.digest == data.digest)
      = s.digestTaken data.digest := by
    cases hdigest : data.digest <;> simp [digestTaken]
  rw [Entry.newRow, h.admits_key, htaken, createKey, hneed, hdata]
  simp only [ok_bind]
  cases s.keys.any fun r => r.id == newId <;> cases s.digestTaken data.digest <;> simp

end Store

end Pressroom

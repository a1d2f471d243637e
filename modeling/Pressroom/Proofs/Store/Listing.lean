import Pressroom.Proofs.Store.Answer
import Pressroom.Proofs.Time.Order

/-!
Lists of a sound store are complete and in the order of time. All times of a table were taken from the
clock, and the texts of such times are in the order of their instants, so sorting the rows by the text
of their creation sorts what is read of them by the moment of it. The sort is stable, so rows of one
moment stay in the order of the table, and the first row of a sorted list is the first of those that
come earliest.
-/
namespace Pressroom

/-- Marks of instants are in the order of the instants. -/
theorem Mark.leOption_ofInstant {a b : Int} (ha : InEra a) (hb : InEra b) :
    leOption (some (ofInstant a)) (some (ofInstant b)) = decide (a ≤ b) := by
  rw [leOption, ofInstant, ofInstant, le]
  exact decide_eq_decide.2 (Stamp.iso_le_iff ha hb)

namespace Entry

variable {α : Type}

/-- The moment at which an item was created. -/
def moment (i : Item α) : Int := (i.created.map Stamp.instant).getD 0

/-- What is read of a row of the table was created at the moment that the row has the text of. -/
theorem Timed.created_item {r : Row α} (h : r.Timed) :
    InEra r.item.moment ∧ r.created = some (.ofInstant r.item.moment) ∧
      r.item.created = some (.ofInstant r.item.moment) := by
  obtain ⟨t, ht, hcreated⟩ := h.created
  have hitem : r.item.created = some (.ofInstant t) := by
    rw [item, stampOf, hcreated, Mark.read_ofInstant ht]
    rfl
  have hmoment : r.item.moment = t := by
    rw [moment, hitem, Option.map_some, Stamp.instant_ofInstant ht]
    rfl
  rw [hmoment]
  exact ⟨ht, hcreated, hitem⟩

/-- Rows come in the order of the moments at which they were created. -/
theorem Timed.leOption {a b : Row α} (ha : a.Timed) (hb : b.Timed) :
    Mark.leOption a.created b.created = decide (a.item.moment ≤ b.item.moment) := by
  obtain ⟨hera, hcreated, -⟩ := ha.created_item
  obtain ⟨hera', hcreated', -⟩ := hb.created_item
  rw [hcreated, hcreated']
  exact Mark.leOption_ofInstant hera hera'

end Entry

/-! ### Sorted lists -/

namespace Store

section Table

variable {α : Type} {wanted : List (Row α)}

/-- A complete list of some rows of a table, in an order of the moments of their creation. -/
structure Lists (inOrder : Int → Int → Prop) (wanted : List (Row α)) (shown : List (Item α)) :
    Prop where
  /-- It shows these rows and no others, -/
  all : shown.Perm (wanted.map Entry.item)
  /-- each of them once, -/
  once : (shown.map (·.id)).Nodup
  /-- each with the time of its creation, -/
  dated : ∀ i ∈ shown, i.created = some (.ofInstant i.moment)
  /-- in the order of these times, -/
  order : shown.Pairwise fun a b => inOrder a.moment b.moment
  /-- and those of one moment as they come in the table. -/
  ties : ∀ t, (shown.filter fun i => i.moment = t)
    = (wanted.map Entry.item).filter fun i => i.moment = t

/-- Sorting keeps apart what it does not have to move: the items of one moment stay as they were. -/
theorem filter_mergeSort {inOrder : Int → Int → Prop} [DecidableRel inOrder]
    (htrans : ∀ a b c, inOrder a b → inOrder b c → inOrder a c)
    (htotal : ∀ a b, inOrder a b ∨ inOrder b a) (items : List (Item α)) (t : Int) :
    ((items.mergeSort fun a b => decide (inOrder a.moment b.moment)).filter fun i => i.moment = t)
      = items.filter fun i => i.moment = t := by
  have hrefl : inOrder t t := (htotal t t).elim id id
  have hsame : (items.filter fun i => i.moment = t).Pairwise
      fun a b => decide (inOrder a.moment b.moment) = true := by
    refine List.pairwise_of_forall_mem_list fun a ha b hb => ?_
    have hat : a.moment = t := by simpa using (List.mem_filter.1 ha).2
    have hbt : b.moment = t := by simpa using (List.mem_filter.1 hb).2
    rw [hat, hbt]
    exact decide_eq_true hrefl
  have hsub : (items.filter fun i => i.moment = t).Sublist
      (items.mergeSort fun a b => decide (inOrder a.moment b.moment)) := List.sublist_mergeSort
    (by simpa using fun a b c : Item α => htrans a.moment b.moment c.moment)
    (by simpa using fun a b : Item α => htotal a.moment b.moment) hsame List.filter_sublist
  have hfiltered := hsub.filter fun i => i.moment = t
  rw [List.filter_filter] at hfiltered
  simp only [Bool.and_self] at hfiltered
  refine (hfiltered.eq_of_length ?_).symm
  exact ((List.mergeSort_perm _ _).filter _).length_eq.symm

/-- Rows that are sorted by the texts of their creation are listed by its moments. -/
theorem lists_of_sorted (inOrder : Int → Int → Prop) [DecidableRel inOrder]
    (htrans : ∀ a b c, inOrder a b → inOrder b c → inOrder a c)
    (htotal : ∀ a b, inOrder a b ∨ inOrder b a) (hids : (wanted.map (·.id)).Nodup)
    (htimes : ∀ r ∈ wanted, r.Timed) {le : Row α → Row α → Bool}
    (hle : ∀ a ∈ wanted, ∀ b ∈ wanted,
      le a b = decide (inOrder a.item.moment b.item.moment)) :
    Lists inOrder wanted ((wanted.mergeSort le).map Entry.item) := by
  have hall : ((wanted.mergeSort le).map Entry.item).Perm (wanted.map Entry.item) :=
    (List.mergeSort_perm ..).map _
  have hsorted : (wanted.mergeSort le).map Entry.item = (wanted.map Entry.item).mergeSort
      fun a b => decide (inOrder a.moment b.moment) := List.map_mergeSort hle
  refine ⟨hall, ?_, fun i hi => ?_, ?_, fun t => ?_⟩
  · have hsame : (wanted.map Entry.item).map (·.id) = wanted.map (·.id) := List.map_map
    rw [(hall.map _).nodup_iff, hsame]
    exact hids
  · obtain ⟨r, hr, rfl⟩ := List.mem_map.1 (hall.mem_iff.1 hi)
    exact (htimes r hr).created_item.2.2
  · rw [hsorted]
    refine List.Pairwise.imp of_decide_eq_true (List.pairwise_mergeSort ?_ ?_ _)
    · simpa using fun a b c : Item α => htrans a.moment b.moment c.moment
    · simpa using fun a b : Item α => htotal a.moment b.moment
  · rw [hsorted]
    exact filter_mergeSort htrans htotal _ t

theorem oldestFirst_lists (hids : (wanted.map (·.id)).Nodup) (htimes : ∀ r ∈ wanted, r.Timed) :
    Lists (· ≤ ·) wanted ((oldestFirst wanted).map Entry.item) :=
  lists_of_sorted (· ≤ ·) (fun _ _ _ => Int.le_trans) Int.le_total hids htimes
    fun a ha b hb => (htimes a ha).leOption (htimes b hb)

theorem newestFirst_lists (hids : (wanted.map (·.id)).Nodup) (htimes : ∀ r ∈ wanted, r.Timed) :
    Lists (· ≥ ·) wanted ((newestFirst wanted).map Entry.item) :=
  lists_of_sorted (· ≥ ·) (fun _ _ _ hab hbc => Int.le_trans hbc hab) (fun a b => Int.le_total b a)
    hids htimes fun a ha b hb => (htimes b hb).leOption (htimes a ha)

/-! ### The earliest row -/

/-- The earliest of some rows, the first of them if several are: every row before it in the table is
later, and no row after it is earlier. -/
inductive Earliest : List (Row α) → Option (Item α) → Prop
  | none : Earliest [] none
  | first (before : List (Row α)) (r : Row α) (after : List (Row α))
      (hbefore : ∀ x ∈ before, r.item.moment < x.item.moment)
      (hafter : ∀ x ∈ after, r.item.moment ≤ x.item.moment) :
      Earliest (before ++ r :: after) (some r.item)

/-- The head of a list from the oldest on is the earliest of its rows. -/
theorem Lists.earliest {shown : List (Item α)} (h : Lists (· ≤ ·) wanted shown) :
    Earliest wanted shown.head? := by
  cases hshown : shown with
  | nil =>
    have hnil : wanted = [] := by
      rw [← List.map_eq_nil_iff, ← List.nil_perm, ← hshown]
      exact h.all
    rw [hnil]
    exact .none
  | cons i rest =>
    subst hshown
    -- The rows of the moment of the head are those of the table, so its row is the first of them.
    have hties := h.ties i.moment
    rw [List.filter_cons, if_pos (decide_eq_true rfl)] at hties
    obtain ⟨front, back, hsplit, hlater, -, -⟩ := List.filter_eq_cons_iff.1 hties.symm
    obtain ⟨before, tail, rfl, rfl, htail⟩ := List.map_eq_append_iff.1 hsplit
    obtain ⟨r, after, rfl, rfl, rfl⟩ := List.map_eq_cons_iff.1 htail
    have hleast : ∀ x ∈ before ++ r :: after, r.item.moment ≤ x.item.moment := by
      intro x hx
      rcases List.mem_cons.1 (h.all.mem_iff.2 (List.mem_map_of_mem hx)) with hhead | hrest
      · rw [hhead]
      · exact List.rel_of_pairwise_cons h.order hrest
    rw [List.head?_cons]
    refine .first before r after (fun x hx => ?_) fun x hx => ?_
    · have hne : x.item.moment ≠ r.item.moment := by
        simpa using hlater x.item (List.mem_map_of_mem hx)
      have hle := hleast x (List.mem_append_left _ hx)
      omega
    · exact hleast x (List.mem_append_right _ (List.mem_cons_of_mem _ hx))

end Table

/-! ### Posts and users -/

variable {s : Store}

/-- Whether a post is to be listed: deleted posts only if they are wanted, and posts of one type or of
one author if such posts are asked for. -/
def Wanted (type author : Option String) (deletedToo : Bool) (r : Row PostData) : Prop :=
  (deletedToo = true ∨ r.isLive = true) ∧ (∀ t ∈ type, r.data.type = some t) ∧
    ∀ a ∈ author, r.data.author = some a

instance (type author : Option String) (deletedToo : Bool) (r : Row PostData) :
    Decidable (Wanted type author deletedToo r) := inferInstanceAs (Decidable (_ ∧ _ ∧ _))

/-- Whether a post is live and has exactly this title. -/
def Titled (title : String) (r : Row PostData) : Prop :=
  r.isLive = true ∧ r.data.title = some title

instance (title : String) (r : Row PostData) : Decidable (Titled title r) :=
  inferInstanceAs (Decidable (_ ∧ _))

/-- A column is passed by a filter if it holds what is asked for. -/
theorem passes_iff (asked held : Option String) :
    (asked.isNone || held == asked) = true ↔ ∀ t ∈ asked, held = some t := by
  cases asked <;> simp

/-- Posts are listed by any filter: exactly those that it lets pass, the latest of them first. -/
theorem Sound.listPosts_lists (hs : s.Sound) (type author : Option String) (deletedToo : Bool) :
    ∃ shown, s.listPosts ⟨type.map Text.ofString, author.map Text.ofString, deletedToo⟩ = .ok shown ∧
      Lists (· ≥ ·) (s.posts.filter fun r => Wanted type author deletedToo r) shown := by
  have hwanted : ((rowsFor s.posts deletedToo).filter fun r =>
      (type.isNone || r.data.type == type) && (author.isNone || r.data.author == author))
      = s.posts.filter fun r => Wanted type author deletedToo r := by
    rw [rowsFor, List.filter_filter]
    refine List.filter_congr fun r _ => Bool.eq_iff_iff.2 ?_
    rw [Bool.and_eq_true, Bool.and_eq_true, passes_iff, passes_iff, Bool.or_eq_true,
      decide_eq_true_iff, Wanted, and_comm]
  have hids := hs.posts.ids.sublist
    ((List.filter_sublist (p := fun r => Wanted type author deletedToo r)).map _)
  have htimes : ∀ r ∈ s.posts.filter fun r => Wanted type author deletedToo r, r.Timed :=
    fun r hr => hs.posts.times r (List.mem_filter.1 hr).1
  refine ⟨_, ?_, newestFirst_lists hids htimes⟩
  rw [Store.listPosts, hs.ready.need.2.1, ok_bind, bindOption_strings, ok_bind, bindOption_strings,
    ok_bind, hwanted]
  exact readRows_timed fun r hr => htimes r (List.mem_mergeSort.1 hr)

/-- Users are listed from the oldest on. -/
theorem Sound.listUsers_lists (hs : s.Sound) (deletedToo : Bool) :
    ∃ shown, s.listUsers deletedToo = .ok shown ∧
      Lists (· ≤ ·) (rowsFor s.users deletedToo) shown :=
  ⟨_, hs.listUsers deletedToo, oldestFirst_lists (hs.users.ids.sublist (List.filter_sublist.map _))
    fun r hr => hs.users.times r (List.mem_filter.1 hr).1⟩

/-- The post that is found by its title is the earliest of the live ones that have it. -/
theorem Sound.postByTitle?_earliest (hs : s.Sound) (title : String) :
    ∃ found, s.postByTitle? (some (Text.ofString title)) = .ok found ∧
      Earliest (s.posts.filter fun r => Titled title r) found := by
  have hwanted : ((rowsFor s.posts false).filter fun r =>
      (some title).isSome && r.data.title == some title)
      = s.posts.filter fun r => Titled title r := by
    rw [rowsFor, List.filter_filter]
    refine List.filter_congr fun r _ => Bool.eq_iff_iff.2 ?_
    rw [Bool.and_eq_true, Option.isSome_some, Bool.true_and, Bool.false_or, beq_iff_eq,
      decide_eq_true_iff, Titled, and_comm]
  have htimes : ∀ r ∈ s.posts.filter fun r => Titled title r, r.Timed :=
    fun r hr => hs.posts.times r (List.mem_filter.1 hr).1
  have hlists := oldestFirst_lists (hs.posts.ids.sublist (List.filter_sublist.map _)) htimes
  have hask : s.postByTitle? (some (Text.ofString title))
      = readRow? (oldestFirst (s.posts.filter fun r => Titled title r)).head? := by
    rw [Store.postByTitle?, hs.ready.need.2.1, ok_bind, bindOption_ofString, ok_bind, hwanted]
  refine ⟨_, ?_, hlists.earliest⟩
  rw [hask, List.head?_map]
  cases hhead : (oldestFirst (s.posts.filter fun r => Titled title r)).head? with
  | none => rfl
  | some r => exact readRow?_timed (htimes r (List.mem_mergeSort.1 (List.mem_of_head? hhead)))

/-! ### The order of a table -/

/-- A change of the store adds a row at the end of its table, or leaves every row in its place. -/
theorem Write.order {now : Instant} {t : Store} (w : Write now s t) (k : RecordKind) :
    (s.rows k).map (·.id) <+: (t.rows k).map (·.id) := by
  have hadded : ∀ {α : Type} (rows : List (Row α)) (r : Row α),
      rows.map (·.id) <+: (rows ++ [r]).map (·.id) := fun rows r => by
    rw [List.map_append]; exact List.prefix_append _ _
  have hrevised : ∀ {α : Type} (rows : List (Row α)) (id : String) {f : Row α → Row α},
      KeepsId f → rows.map (·.id) <+: (reviseRow rows id f).map (·.id) := fun rows id _ hf =>
    ids_reviseRow hf rows id ▸ List.prefix_rfl
  cases w with
  | addUser | addPost | addKey =>
    cases k
    all_goals first | exact List.prefix_rfl | exact hadded _ _
  | reviseUser | setPassword | revisePost =>
    cases k
    all_goals first | exact List.prefix_rfl | exact hrevised _ _ (keepsId_revised _ _)
  | deleteUser | deletePost | deleteKey =>
    cases k
    all_goals first | exact List.prefix_rfl | exact hrevised _ _ (keepsId_softDeleted _)
  | restoreUser | restorePost =>
    cases k
    all_goals first | exact List.prefix_rfl | exact hrevised _ _ (keepsId_restored _)

/-- Setting up leaves every row in its place as well. -/
theorem setUp_order (s : Store) (freshId : String) (now : Instant) (seed : Seed) (k : RecordKind) :
    (s.rows k).map (·.id) <+: ((s.setUp freshId now seed).1.rows k).map (·.id) := by
  by_cases hk : k = .user
  · subst hk
    rw [setUp]
    cases hcreated : s.createMissing with
    | error f => exact List.prefix_rfl
    | ok t =>
      obtain ⟨schema, rfl⟩ := createMissing_eq_ok hcreated
      dsimp only
      split
      · exact List.prefix_rfl
      · rename_i hnone
        have hempty : s.users = [] := by simpa using hnone
        rw [rows, hempty]
        exact List.nil_prefix
  · exact setUp_rows s freshId now seed hk ▸ List.prefix_rfl

end Store

end Pressroom

import Pressroom.Proofs.Service.Lifecycle
import Pressroom.Proofs.Store.Listing

/-!
What a service lists, in whatever state it is and however its clock has moved. Its store is sound, so
every list of posts or users is complete and in the order of the real times of creation, with the
order of the table where these are the same. New rows come to the end of their table and no row ever
changes its place, so that is the order in which the rows were added.
-/
namespace Pressroom

namespace Service

open Store

variable {s t : Service}

/-! ### The order of the tables -/

theorem writes_order {now : Instant} {before after : Store} (h : Writes now before after)
    (k : RecordKind) : (before.rows k).map (·.id) <+: (after.rows k).map (·.id) := by
  induction h with
  | refl => exact List.prefix_rfl
  | tail _ w ih => exact ih.trans (w.order k)

/-- A step adds rows at the end of the tables, if it adds any. -/
theorem Step.order (h : s.Step t) (hs : s.Sound) (k : RecordKind) :
    (s.store.rows k).map (·.id) <+: (t.store.rows k).map (·.id) := by
  obtain ⟨now, -, hwrites | ⟨freshId, seed, hsetUp⟩⟩ := h.store hs
  · exact writes_order hwrites k
  · rw [hsetUp]
    exact setUp_order s.store freshId now seed k

/-- So the rows that are there come before all rows that are added later. -/
theorem Reaches.order (h : s.Reaches t) (hs : s.Sound) (k : RecordKind) :
    (s.store.rows k).map (·.id) <+: (t.store.rows k).map (·.id) := by
  induction h with
  | refl => exact List.prefix_rfl
  | tail hreach step ih => exact ih.trans (step.order (Reaches.sound hreach hs) k)

/-! ### Lists -/

/-- What a service answers when it is asked for posts and for users, and what the order of the answers
rests on: the tables keep the order in which their rows came, and the texts of the times of creation are
in the order of these times. -/
structure ListsByTime (s : Service) : Prop where
  /-- Posts are listed by any filter, the latest first. -/
  posts : ∀ (type author : Option String) (deletedToo : Bool), ∃ shown,
    s.store.listPosts ⟨type.map Text.ofString, author.map Text.ofString, deletedToo⟩ = .ok shown ∧
      Lists (· ≥ ·) (s.store.posts.filter fun r => Wanted type author deletedToo r) shown
  /-- Users are listed from the oldest on. -/
  users : ∀ deletedToo, ∃ shown, s.store.listUsers deletedToo = .ok shown ∧
    Lists (· ≤ ·) (rowsFor s.store.users deletedToo) shown
  /-- Of the live posts with a title the earliest is found. -/
  title : ∀ title, ∃ found, s.store.postByTitle? (some (Text.ofString title)) = .ok found ∧
    Earliest (s.store.posts.filter fun r => Titled title r) found
  /-- Rows that are there stand before rows that come later. -/
  order : ∀ t, s.Reaches t → ∀ k, (s.store.rows k).map (·.id) <+: (t.store.rows k).map (·.id)
  /-- The texts of two times of creation compare as the times do. -/
  texts : ∀ k, ∀ a ∈ s.store.rows k, ∀ b ∈ s.store.rows k, ∃ x y,
    a.created = some (.text x) ∧ b.created = some (.text y) ∧
      (x ≤ y ↔ a.item.moment ≤ b.item.moment)

/-- In every state that a service gets into its lists are complete and in the order of time. -/
theorem lists_by_time {policy : Policy} {settings : Settings} {platform : String} {begin : Instant}
    {first : Service} (hbegin : InEra begin)
    (hstart : start policy settings platform begin = .ok first) (hreach : first.Reaches s) :
    s.ListsByTime := by
  have hs : s.Sound := hreach.sound (start_sound hbegin hstart)
  exact {
    posts := hs.store.listPosts_lists
    users := hs.store.listUsers_lists
    title := hs.store.postByTitle?_earliest
    order := fun _ h k => h.order hs k
    texts := fun k a ha b hb => by
      obtain ⟨hera, hcreated, -⟩ := ((hs.store.table k).times a ha).created_item
      obtain ⟨hera', hcreated', -⟩ := ((hs.store.table k).times b hb).created_item
      exact ⟨_, _, hcreated, hcreated', Stamp.iso_le_iff hera hera'⟩ }

/-! ### A clock that runs back -/

/-- A post of the title `a` is created. -/
def createTitled : Call := .createPost ⟨none, none, some (Text.ofString "a"), none⟩

/-- Three posts of one title: the second is created half a second before the first, and the third at
the very moment of the second. -/
def threePosts (s : Service) : Service :=
  (createTitled.perform (createTitled.perform (createTitled.perform s 1000000).1 500000).1 500000).1

theorem reaches_threePosts (s : Service) : s.Reaches s.threePosts := by
  have hera : ∀ now : Int, 0 ≤ now → now ≤ 1000000 → InEra now := by
    intro now hlo hhi
    rw [InEra, epochDay_eq, microsPerDay, microsPerSecond, Calendar.lastDay]
    omega
  have hstep : ∀ (s : Service) (now : Int), 0 ≤ now → now ≤ 1000000 →
      s.Step (createTitled.perform s now).1 := fun s now hlo hhi =>
    .call now _ (hera now hlo hhi) rfl
  exact ((Relation.ReflTransGen.single (hstep _ _ (by omega) (by omega))).tail
    (hstep _ _ (by omega) (by omega))).tail (hstep _ _ (by omega) (by omega))

/-- Their texts differ in shape, and the text of the first one has no decimals. -/
theorem lists_by_time_three :
    ∃ first, start (.ofProfile .testing .standard) .standard "" 0 = .ok first ∧
      (first.threePosts.store.posts.map fun r => (r.id, r.created)) =
        [(Fresh.idText 2, some (.text "1970-01-01T00:00:01+00:00")),
          (Fresh.idText 3, some (.text "1970-01-01T00:00:00.500000+00:00")),
          (Fresh.idText 4, some (.text "1970-01-01T00:00:00.500000+00:00"))] ∧
      first.threePosts.ListsByTime := by
  obtain ⟨first, hstart, hposts⟩ :
      ∃ first, start (.ofProfile .testing .standard) .standard "" 0 = .ok first ∧
        (first.threePosts.store.posts.map fun r => (r.id, r.created)) =
          [(Fresh.idText 2, some (.text "1970-01-01T00:00:01+00:00")),
            (Fresh.idText 3, some (.text "1970-01-01T00:00:00.500000+00:00")),
            (Fresh.idText 4, some (.text "1970-01-01T00:00:00.500000+00:00"))] :=
    ⟨_, rfl, by decide +kernel⟩
  exact ⟨first, hstart, hposts, lists_by_time inEra_zero hstart (reaches_threePosts first)⟩

end Service

end Pressroom

import Mathlib.Data.List.TakeWhile
import Pressroom.Proofs.Service.Issued
import Pressroom.Proofs.Store.Lookup

/-!
Live users have different addresses. The index over the live rows looks at every user who is added,
changed or brought back, and refuses exactly the changes that would give two of them one address. It
looks at no deleted row, so a deleted user stands in nobody's way.
-/
namespace Pressroom

/-! ### Letters in lower case -/

theorem toLower_eq_or (c : Char) : c.toLower = c ∨ ∃ n < 128, c = Char.ofNat n := by
  by_cases h : c.val ≥ 'A'.val ∧ c.val ≤ 'Z'.val
  · have hle : c.toNat ≤ 90 := h.2
    exact .inr ⟨c.toNat, by omega, (Char.ofNat_toNat c).symm⟩
  · exact .inl (dif_neg h)

theorem utf8Size_toLower (c : Char) : c.toLower.utf8Size = c.utf8Size := by
  have hascii : ∀ n < 128, (Char.ofNat n).toLower.utf8Size = (Char.ofNat n).utf8Size := by decide
  rcases toLower_eq_or c with h | ⟨n, hn, rfl⟩
  · rw [h]
  · exact hascii n hn

theorem toLower_bne_nul (c : Char) : (c.toLower != '\x00') = (c != '\x00') := by
  have hascii : ∀ n < 128, ((Char.ofNat n).toLower != '\x00') = (Char.ofNat n != '\x00') := by decide
  rcases toLower_eq_or c with h | ⟨n, hn, rfl⟩
  · rw [h]
  · exact hascii n hn

theorem utf8ByteSize_toLower (cs : List Char) :
    (String.ofList (cs.map Char.toLower)).utf8ByteSize = (String.ofList cs).utf8ByteSize := by
  induction cs with
  | nil => rfl
  | cons c cs ih =>
    rw [List.map_cons, String.ofList_cons, String.ofList_cons, String.utf8ByteSize_append,
      String.utf8ByteSize_append, ih, String.utf8ByteSize_singleton, String.utf8ByteSize_singleton,
      utf8Size_toLower]

theorem takeWhile_toLower (cs : List Char) :
    (cs.takeWhile (· != '\x00')).map Char.toLower
      = (cs.map Char.toLower).takeWhile (· != '\x00') := by
  rw [List.takeWhile_map]
  congr 2
  funext c
  exact (toLower_bne_nul c).symm

namespace Store

/-! ### Addresses -/

/-- Texts that are equal up to the case of ASCII letters. -/
def SameAddress (a b : String) : Prop := a.toList.map Char.toLower = b.toList.map Char.toLower

instance (a b : String) : Decidable (SameAddress a b) :=
  inferInstanceAs (Decidable (_ = _))

/-- The schema takes such texts for the same. It also takes texts for the same that differ only
behind U+0000. -/
theorem SameAddress.noCaseSame {a b : String} (h : SameAddress a b) : noCaseSame a b = true := by
  have hsize : a.utf8ByteSize = b.utf8ByteSize := by
    rw [← String.ofList_toList (s := a), ← utf8ByteSize_toLower, h, utf8ByteSize_toLower,
      String.ofList_toList]
  have hfront : (a.toList.takeWhile (· != '\x00')).map Char.toLower
      = (b.toList.takeWhile (· != '\x00')).map Char.toLower := by
    rw [takeWhile_toLower, h, takeWhile_toLower]
  rw [noCaseSame_iff, noCaseKey, noCaseKey, hsize, hfront]

/-- Where no U+0000 is in the way, the schema takes no other texts for the same. -/
theorem noCaseSame_iff_sameAddress {a b : String} (hb : '\x00' ∉ b.toList) :
    noCaseSame a b = true ↔ SameAddress a b := by
  refine ⟨fun h => ?_, SameAddress.noCaseSame⟩
  obtain ⟨hsize, hfront⟩ := Prod.mk.inj ((noCaseSame_iff a b).1 h)
  have hwhole : b.toList.takeWhile (· != '\x00') = b.toList :=
    List.takeWhile_eq_self_iff.2 fun c hc => by
      simpa using fun hnul : c = '\x00' => hb (hnul ▸ hc)
  rw [hwhole] at hfront
  -- The front of `a` has the size of `b`, which is that of all of `a`; so nothing is behind it.
  have hrest : a.toList.dropWhile (· != '\x00') = [] := by
    have hsplit : (String.ofList (a.toList.takeWhile (· != '\x00'))).utf8ByteSize
        + (String.ofList (a.toList.dropWhile (· != '\x00'))).utf8ByteSize = a.utf8ByteSize := by
      rw [← String.utf8ByteSize_append, ← String.ofList_append, List.takeWhile_append_dropWhile,
        String.ofList_toList]
    have hsame : (String.ofList (a.toList.takeWhile (· != '\x00'))).utf8ByteSize
        = b.utf8ByteSize := by
      rw [← utf8ByteSize_toLower, hfront, utf8ByteSize_toLower, String.ofList_toList]
    have hzero : (String.ofList (a.toList.dropWhile (· != '\x00'))).utf8ByteSize = 0 := by omega
    rw [String.utf8ByteSize_eq_zero_iff] at hzero
    simpa using congrArg String.toList hzero
  have hall : a.toList.takeWhile (· != '\x00') = a.toList := by
    have := List.takeWhile_append_dropWhile (p := (· != '\x00')) (l := a.toList)
    rwa [hrest, List.append_nil] at this
  rw [SameAddress, ← hfront, hall]

/-- No two live users have one address. -/
def AddressesDiffer (users : List (Row UserData)) : Prop :=
  ∀ a ∈ users, ∀ b ∈ users, a.isLive = true → b.isLive = true →
    SameAddress a.data.email b.data.email → a = b

theorem EmailsApart.differ {users : List (Row UserData)} (h : EmailsApart users) :
    AddressesDiffer users :=
  fun a ha b hb hla hlb hsame => h a ha b hb hla hlb hsame.noCaseSame

/-- The live users among whom an address is looked for. -/
def candidates (s : Store) (address : String) : List (Row UserData) :=
  (rowsFor s.users false).filter fun r => noCaseSame r.data.email address

theorem mem_candidates {s : Store} {address : String} {r : Row UserData} :
    r ∈ s.candidates address ↔
      (r ∈ s.users ∧ r.isLive = true) ∧ noCaseSame r.data.email address = true := by
  rw [candidates, List.mem_filter, mem_rowsFor_live]

theorem Sound.candidates_length {s : Store} (hs : s.Sound) (address : String) :
    (s.candidates address).length ≤ 1 := by
  have hnodup : (s.candidates address).Nodup :=
    (hs.users.ids.of_map.filter _).filter _
  have hmem : ∀ r ∈ s.candidates address,
      r ∈ s.users ∧ r.isLive = true ∧ noCaseSame r.data.email address = true := by
    intro r hr
    obtain ⟨⟨hmem, hlive⟩, hsame⟩ := mem_candidates.1 hr
    exact ⟨hmem, hlive, hsame⟩
  cases hfound : s.candidates address with
  | nil => exact Nat.zero_le 1
  | cons a rest =>
    cases rest with
    | nil => exact Nat.le_refl 1
    | cons b rest =>
      obtain ⟨ha, hla, hsa⟩ := hmem a (by rw [hfound]; simp)
      obtain ⟨hb, hlb, hsb⟩ := hmem b (by rw [hfound]; simp)
      have hab := hs.emails a ha b hb hla hlb (noCaseSame_trans hsa (noCaseSame_symm hsb))
      rw [hfound, hab] at hnodup
      exact absurd List.mem_cons_self (List.nodup_cons.1 hnodup).1

/-- Where there is one candidate at most, looking for an address gives it, whenever it came. -/
theorem Sound.userByEmail?_eq {s : Store} (hs : s.Sound) (address : String) :
    s.userByEmail? (Text.ofString address) false = readRow? (s.candidates address).head? := by
  have hask : s.userByEmail? (Text.ofString address) false
      = readRow? (newestFirst (s.candidates address)).head? := by
    rw [Store.userByEmail?, hs.ready.need.1, bind_ofString]; rfl
  have hlength := hs.candidates_length address
  rw [hask]
  cases hfound : s.candidates address with
  | nil => rw [newestFirst, List.mergeSort_nil]
  | cons r rest =>
    cases rest with
    | nil => rw [newestFirst, List.mergeSort_singleton]
    | cons _ _ => rw [hfound] at hlength; simp at hlength

/-- The live user with an address is the one who is found by it. -/
theorem Sound.userByEmail?_of_mem {s : Store} (hs : s.Sound) {address : String}
    {r : Row UserData} (hr : r ∈ s.candidates address) :
    s.userByEmail? (Text.ofString address) false = readRow? (some r) := by
  have hlength := hs.candidates_length address
  rw [hs.userByEmail?_eq]
  cases hfound : s.candidates address with
  | nil => rw [hfound] at hr; cases hr
  | cons x rest =>
    rw [hfound, List.length_cons] at hlength
    have hnone : rest = [] := List.eq_nil_of_length_eq_zero (by omega)
    rw [hfound, hnone, List.mem_singleton] at hr
    rw [hr, List.head?_cons]

/-! ### What the index refuses -/

/-- A store whose rows no index looks at. -/
def unwatched (s : Store) : Store := { s with schema := { s.schema with indexes := [] } }

theorem unwatched_users (s : Store) : s.unwatched.users = s.users := rfl

theorem unwatched_emailClash (s : Store) (id email : String) :
    s.unwatched.emailClash id email = false := rfl

/-- The first result is a conflict, or both fail alike, or both leave the same users. -/
inductive ConflictOr {α : Type} : StoreResult (Store × α) → StoreResult (Store × α) → Prop
  | conflict {q : StoreResult (Store × α)} : ConflictOr (.error .conflict) q
  | failed {f : StoreFault} : ConflictOr (.error f) (.error f)
  | done {a b : Store × α} (users : b.1.users = a.1.users) : ConflictOr (.ok a) (.ok b)

theorem ConflictOr.bind {α β : Type} {x : StoreResult β} {f g : β → StoreResult (Store × α)}
    (h : ∀ b, ConflictOr (f b) (g b)) : ConflictOr (x >>= f) (x >>= g) := by
  cases x with
  | error _ => exact .failed
  | ok b => exact h b

theorem createUser_conflictOr (s : Store) (id : String) (now : Instant) (n : NewUser) :
    ConflictOr (s.createUser id now n) (s.unwatched.createUser id now n) := by
  refine .bind fun _ => .bind fun data => ?_
  rw [unwatched_users, unwatched_emailClash]
  split
  · exact .conflict
  · rename_i hfree
    rw [Bool.not_eq_true, Bool.or_eq_false_iff] at hfree
    rw [hfree.1, if_neg (by decide)]
    exact .done rfl

theorem updateUser_conflictOr (s : Store) (id : Text) (now : Instant) (c : UserChanges) :
    ConflictOr (s.updateUser id now c) (s.unwatched.updateUser id now c) := by
  rw [updateUser, updateUser]
  by_cases hempty : c.isEmpty = true
  · rw [if_pos hempty, if_pos hempty]
    exact .bind (x := s.user? id false) fun _ => .done rfl
  · rw [if_neg hempty, if_neg hempty]
    refine .bind fun _ => .bind fun fullname => .bind fun email => .bind fun permissions =>
      .bind fun key => ?_
    rw [unwatched_users]
    cases findRow? s.users false key with
    | none => exact .done rfl
    | some r =>
      simp only [unwatched_emailClash, Bool.false_eq_true, if_false]
      split
      · split
        · exact .conflict
        · exact .done rfl
      · exact .conflict

theorem restoreUser_conflictOr (s : Store) (id : Text) (now : Instant) :
    ConflictOr (s.restoreUser id now) (s.unwatched.restoreUser id now) := by
  refine .bind fun _ => .bind fun key => ?_
  rw [unwatched_users]
  cases findRow? s.users true key with
  | none => exact .done rfl
  | some r =>
    simp only [unwatched_emailClash, Bool.false_eq_true, if_false]
    split
    · exact .done rfl
    · split
      · exact .conflict
      · exact .done rfl

end Store

/-! ### Calls -/

open Store

/-- A service whose rows no index looks at. -/
def Service.unwatched (s : Service) : Service := { s with store := s.store.unwatched }

namespace Call

/-- Whether a call may give an address to a live user. -/
def givesAddress : Call → Bool
  | createUser _ | updateUser .. | restoreUser _ => true
  | _ => false

variable {s : Service} {now : Instant}

theorem change_conflictOr {r q : StoreResult (Store × Bool)} (h : ConflictOr r q) :
    (change s r).2 = .error (.store .conflict) ∧ (change s r).1.store = s.store ∨
      (change s.unwatched q).1.store.users = (change s r).1.store.users := by
  cases h with
  | conflict => exact .inl ⟨rfl, rfl⟩
  | failed => exact .inr rfl
  | done husers => exact .inr husers

theorem addUser_conflictOr (s : Service) (now : Instant) (n : NewUser) :
    (s.addUser now n).2 = .error .conflict ∧ (s.addUser now n).1.store = s.store ∨
      (s.unwatched.addUser now n).1.store.users = (s.addUser now n).1.store.users := by
  have h := createUser_conflictOr s.store s.fresh.nextId now n
  rw [Service.addUser, Service.addUser]
  change ConflictOr _ (s.unwatched.store.createUser s.unwatched.fresh.nextId now n) at h
  generalize s.store.createUser s.fresh.nextId now n = r at h ⊢
  generalize s.unwatched.store.createUser s.unwatched.fresh.nextId now n = q at h ⊢
  cases h with
  | conflict => exact .inl ⟨rfl, rfl⟩
  | failed => exact .inr rfl
  | done husers => exact .inr husers

/-- Such a call either meets a conflict and changes nothing, or leaves the users as they would be if
no index looked at them. -/
theorem perform_conflictOr (s : Service) (now : Instant) (c : Call) (h : c.givesAddress = true) :
    (c.perform s now).2 = .error (.store .conflict) ∧ (c.perform s now).1.store = s.store ∨
      (c.perform s.unwatched now).1.store.users = (c.perform s now).1.store.users := by
  cases c
  case createUser n =>
    rcases addUser_conflictOr s now n with ⟨hr, hs⟩ | hsame
    · exact .inl ⟨by rw [perform, added, hr]; rfl, hs⟩
    · exact .inr hsame
  case updateUser id given =>
    exact change_conflictOr (.bind fun c => updateUser_conflictOr s.store id now c)
  case restoreUser id => exact change_conflictOr (restoreUser_conflictOr s.store id now)
  all_goals cases h

end Call

namespace Service

variable {s : Service} {now : Instant}

/-- A user whose address no live user has is added, whatever deleted users there are. -/
theorem addUser_free (hs : s.store.Sound) (hissued : s.Issued) {n : NewUser} {data : UserData}
    (hdata : bindUser n = .ok data) (hfree : s.store.candidates data.email = []) :
    s.addUser now n = ({ s with
        fresh := s.fresh.usedId
        store := { s.store with users := s.store.users ++ [.newRow s.fresh.nextId data now] } },
      .ok (.newItem s.fresh.nextId data now)) := by
  have hfresh : (s.store.users.any fun r => r.id == s.fresh.nextId) = false := by
    rw [List.any_eq_false]
    exact fun r hr hid => users_ne hissued.nextId r hr (beq_iff_eq.1 hid)
  have hclash : s.store.emailClash s.fresh.nextId data.email = false := by
    rw [← Bool.not_eq_true]
    intro hclash
    obtain ⟨r, hr, hlive, hsame⟩ := hs.clash hclash
    have hmem : r ∈ s.store.candidates data.email := mem_candidates.2 ⟨⟨hr, hlive⟩, hsame⟩
    rw [hfree] at hmem
    cases hmem
  have hmade : s.store.createUser s.fresh.nextId now n = .ok ({ s.store with
      users := s.store.users ++ [.newRow s.fresh.nextId data now] },
      .newItem s.fresh.nextId data now) := by
    rw [Store.createUser, hs.ready.need.1, hdata]
    change (if _ then _ else _) = _
    rw [hfresh, hclash, if_neg (by decide)]
  rw [addUser, hmade]

/-- In every state that a service gets into, live users have different addresses. A call that would
give two of them one address meets a conflict and changes nothing; a user whose address no live user
has is added, whatever deleted users there are; and whoever is looked for by address is the one
candidate that there can be. -/
theorem addresses_stay_apart {policy : Policy} {settings : Settings} {platform : String}
    {begin : Instant} {first : Service} (hbegin : InEra begin)
    (hstart : start policy settings platform begin = .ok first) (hreach : first.Reaches s)
    (hnow : InEra now) :
    AddressesDiffer s.store.users ∧
      (∀ c : Call, c.givesAddress = true →
        ¬ AddressesDiffer (c.perform s.unwatched now).1.store.users →
        (c.perform s now).2 = .error (.store .conflict) ∧
          (c.perform s now).1.store = s.store) ∧
      (∀ n data, bindUser n = .ok data → s.store.candidates data.email = [] →
        s.addUser now n = ({ s with
            fresh := s.fresh.usedId
            store := { s.store with
              users := s.store.users ++ [.newRow s.fresh.nextId data now] } },
          .ok (.newItem s.fresh.nextId data now))) ∧
      ∀ address, (s.store.candidates address).length ≤ 1 ∧
        s.store.userByEmail? (Text.ofString address) false
          = readRow? (s.store.candidates address).head? := by
  have hfirst := start_sound hbegin hstart
  have hs := hreach.sound hfirst
  refine ⟨hs.store.emails.differ, fun c hc hbreaks => ?_, fun n data hdata hfree => ?_,
    fun address => ⟨hs.store.candidates_length address, hs.store.userByEmail?_eq address⟩⟩
  · rcases Call.perform_conflictOr s now c hc with hconflict | hsame
    · exact hconflict
    · -- The call is a step of the service, so what it leaves keeps the addresses apart.
      have hroutine : c.routine = true := by cases c <;> first | rfl | cases hc
      have hafter := (Step.call now c hnow hroutine).sound hs
      exact absurd (hsame ▸ hafter.store.emails.differ) hbreaks
  · exact addUser_free hs.store (hreach.issued (start_issued hstart)) hdata hfree

/-- Somebody new with an address. -/
def newcomer (address : String) : NewUser :=
  ⟨some (Text.ofString "Other"), some (Text.ofString address), some (Text.ofString "x"), some 0⟩

theorem bindUser_newcomer (address : String) :
    bindUser (newcomer address) = .ok ⟨"Other", address, "x", 0⟩ := by
  rw [bindUser, newcomer, bindOption_ofString, bindOption_ofString, bindOption_ofString]
  rfl

/-- The address of the first administrator is refused to others in any case of its letters, until the
administrator is deleted. -/
theorem addresses_stay_apart_seed :
    ∃ first left, start (.ofProfile .testing .standard) .standard "" 0 = .ok first ∧
      ((Call.deleteUser (Text.ofString (Fresh.idText 1))).perform first 1).1 = left ∧
      ((Call.createUser (newcomer "ADMIN@example.com")).perform first 1).2
        = .error (.store .conflict) ∧
      (left.addUser 2 (newcomer "ADMIN@example.com")).2.toOption.map (·.id) = some (Fresh.idText 2) ∧
      (left.store.candidates "admin@example.com").length ≤ 1 := by
  obtain ⟨first, hstart, ⟨a, ha, b, hb, ⟨hla, hlb⟩, hsame, hids⟩, hnone, hnext⟩ :
      ∃ first, start (.ofProfile .testing .standard) .standard "" 0 = .ok first ∧
        (∃ a ∈ ((Call.createUser (newcomer "ADMIN@example.com")).perform
            first.unwatched 1).1.store.users,
          ∃ b ∈ ((Call.createUser (newcomer "ADMIN@example.com")).perform
            first.unwatched 1).1.store.users,
          (a.isLive = true ∧ b.isLive = true) ∧ SameAddress a.data.email b.data.email ∧
            a.id ≠ b.id) ∧
        ((Call.deleteUser (Text.ofString (Fresh.idText 1))).perform first 1).1.store.candidates
          "ADMIN@example.com" = [] ∧
        ((Call.deleteUser (Text.ofString (Fresh.idText 1))).perform first 1).1.fresh.nextId
          = Fresh.idText 2 :=
    ⟨_, rfl, by decide +kernel, by decide +kernel, by decide +kernel⟩
  have hbreaks : ¬ AddressesDiffer ((Call.createUser (newcomer "ADMIN@example.com")).perform
      first.unwatched 1).1.store.users :=
    fun hdiffer => hids (congrArg (·.id) (hdiffer a ha b hb hla hlb hsame))
  have hone : InEra 1 := by rw [InEra]; decide
  have htwo : InEra 2 := by rw [InEra]; decide
  have hrule := addresses_stay_apart inEra_zero hstart .refl hone
  have hdeleted := addresses_stay_apart inEra_zero hstart
    (.single (.call 1 (.deleteUser (Text.ofString (Fresh.idText 1))) hone rfl)) htwo
  have hadded := hdeleted.2.2.1 (newcomer "ADMIN@example.com")
    ⟨"Other", "ADMIN@example.com", "x", 0⟩ (bindUser_newcomer _) hnone
  refine ⟨first, _, hstart, rfl, (hrule.2.1 _ rfl hbreaks).1, ?_, (hdeleted.2.2.2 _).1⟩
  rw [hadded, hnext]
  rfl

end Service

end Pressroom

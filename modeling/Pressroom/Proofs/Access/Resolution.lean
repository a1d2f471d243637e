import Mathlib.Algebra.Order.Field.Rat
import Mathlib.Algebra.Order.Field.Power
import Mathlib.Data.Rat.Cast.Order
import Mathlib.Order.WithBot
import Mathlib.Tactic.Positivity
import Pressroom.Proofs.Access.TokenOwner
import Pressroom.Proofs.Service.Address

/-!
What a token resolves to, read off the rows of the store. The rows decide in a fixed order: without a
live key the token is invalid, a key whose time has come is expired, a key without a live owner is
refused for that, and only then the owner is the answer. A key and its owner are one row each at most,
so there is nothing to choose. Time only ever moves a token from its owner to a refusal: neither the
digest nor the expiry of a key changes, so a token that has expired is expired or invalid from then on.
-/
namespace Pressroom

/-! ### Moments -/

/-- A moment in seconds. Time ends at both infinities. -/
abbrev Moment := WithBot (WithTop ℚ)

/-- A whole number of seconds as a moment. -/
def Moment.whole (seconds : Int) : Moment := ((seconds : ℚ) : WithTop ℚ)

theorem Moment.whole_le (seconds : Int) (q : ℚ) :
    Moment.whole seconds ≤ ((q : WithTop ℚ) : Moment) ↔ (seconds : ℚ) ≤ q := by
  rw [Moment.whole, WithBot.coe_le_coe, WithTop.coe_le_coe]

namespace Binary

/-- The exact value of a number. NaN has none. -/
def value? : Binary → Option Moment
  | nan => none
  | infinite negative => some (if negative then ⊥ else ⊤)
  | finite negative m e => some (((signed negative m : ℚ) * 2 ^ e : ℚ) : WithTop ℚ)

theorem compare_not_lt (a b : Int) :
    (some (compare a b) == some .gt || some (compare a b) == some .eq) = true ↔ b ≤ a := by
  rcases lt_trichotomy a b with h | h | h
  · simp [compare_lt_iff_lt.2 h, h]
  · simp [compare_eq_iff_eq.2 h, h.ge]
  · simp [compare_gt_iff_gt.2 h, h.le]

theorem signed_mul (negative : Bool) (m k : Nat) :
    signed negative (m * k) = signed negative m * k := by
  cases negative <;> simp [signed]

theorem twoTo_cast (k : Nat) : ((twoTo k : Nat) : ℚ) = 2 ^ k := by
  rw [twoTo, Nat.pow_eq, Nat.cast_pow, Nat.cast_ofNat]

/-- The power of two that a mantissa is multiplied by, -/
theorem zpow_of_nonneg {e : Int} (he : 0 ≤ e) : (2 : ℚ) ^ e = (twoTo e.toNat : Nat) := by
  rw [twoTo_cast, ← zpow_natCast, Int.toNat_of_nonneg he]

/-- or that it is divided by. -/
theorem zpow_of_neg {e : Int} (he : ¬ 0 ≤ e) : (2 : ℚ) ^ e = ((twoTo (-e).toNat : Nat) : ℚ)⁻¹ := by
  rw [twoTo_cast, ← zpow_natCast, Int.toNat_of_nonneg (by omega), zpow_neg, inv_inv]

/-- Comparing with a whole number is exact. -/
theorem whole_le_iff (x : Binary) (n : Int) :
    (x.compareWhole? n == some .gt || x.compareWhole? n == some .eq) = true ↔
      ∃ v, x.value? = some v ∧ Moment.whole n ≤ v := by
  cases x with
  | nan => simp [compareWhole?, value?]
  | infinite negative => cases negative <;> simp [compareWhole?, value?, Moment.whole]
  | finite negative m e =>
    simp only [compareWhole?, value?, Option.some.injEq, exists_eq_left', Moment.whole_le]
    split
    · rename_i he
      rw [compare_not_lt, signed_mul, zpow_of_nonneg he]
      norm_cast
    · rename_i he
      have hpower : (0 : ℚ) < (twoTo (-e).toNat : Nat) := by rw [twoTo_cast]; positivity
      -- Both sides are taken times the power that the mantissa is divided by.
      rw [compare_not_lt, zpow_of_neg he, ← div_eq_mul_inv, le_div_iff₀ hpower]
      norm_cast

end Binary

/-- The moment that an amount of seconds is. -/
def Json.Amount.value? : Json.Amount → Option Moment
  | .whole n => some (Moment.whole n)
  | .real x => x.value?

theorem Record.atMost_whole_iff (n : Int) (m : Json.Amount) :
    Record.atMost (.whole n) m = true ↔ ∃ v, m.value? = some v ∧ Moment.whole n ≤ v := by
  cases m with
  | whole k => simp [Record.atMost, Json.Amount.value?, Moment.whole]
  | real x => exact x.whole_le_iff n

/-- The moment that counts as the present one: a moment that is named, else that of the clock. -/
def Call.present? (moment : Option Json.Amount) (now : Instant) : Option Moment :=
  match moment with
  | some m => m.value?
  | none => some ((now / microsPerSecond : ℚ) : WithTop ℚ)

/-- A time in seconds has come if it is at most the present one. -/
theorem Call.reached_iff (moment : Option Json.Amount) (now : Instant) (seconds : Int) :
    Call.reached moment now seconds = true ↔
      ∃ v, Call.present? moment now = some v ∧ Moment.whole seconds ≤ v := by
  cases moment with
  | some m => exact Record.atMost_whole_iff seconds m
  | none =>
    have hmicros : (0 : ℚ) < (microsPerSecond : ℤ) := by rw [microsPerSecond]; norm_num
    simp only [Call.reached, Account.reachedAt, decide_eq_true_eq, Call.present?, Option.some.injEq,
      exists_eq_left', Moment.whole_le]
    rw [le_div_iff₀ hmicros, ← Int.cast_mul, Int.cast_le]

/-! ### Keys and their owners -/

namespace Store

variable {s : Store} {token : String} {r r' : Row KeyData} {u u' : Row UserData}

/-- The row is that of the live key of a token. -/
def KeyOf (s : Store) (token : String) (r : Row KeyData) : Prop :=
  r ∈ s.keys ∧ r.isLive = true ∧ r.data.digest = some (Account.tokenDigest token)

instance (s : Store) (token : String) (r : Row KeyData) : Decidable (s.KeyOf token r) :=
  inferInstanceAs (Decidable (_ ∧ _ ∧ _))

/-- The row is that of a live user with the address that a key names. -/
def OwnedBy (s : Store) (r : Row KeyData) (u : Row UserData) : Prop :=
  ∃ address, r.data.owner = some address ∧ address ≠ "" ∧
    u ∈ s.users ∧ u.isLive = true ∧ noCaseSame u.data.email address = true

theorem Sound.keyOf_unique (hs : s.Sound) (h : s.KeyOf token r) (h' : s.KeyOf token r') :
    r' = r := hs.digests r' h'.1 r h.1 _ h'.2.2 h.2.2

theorem Sound.owner_unique (hs : s.Sound) (h : s.OwnedBy r u) (h' : s.OwnedBy r u') : u' = u := by
  obtain ⟨address, howner, -, hmem, hlive, hsame⟩ := h
  obtain ⟨address', howner', -, hmem', hlive', hsame'⟩ := h'
  cases howner.symm.trans howner'
  exact hs.emails u' hmem' u hmem hlive' hlive (noCaseSame_trans hsame' (noCaseSame_symm hsame))

/-- Unless U+0000 is in the address that a key names, its owner has that address up to the case of
ASCII letters. -/
theorem ownedBy_iff {address : String} (howner : r.data.owner = some address)
    (hnul : '\x00' ∉ address.toList) : s.OwnedBy r u ↔
      address ≠ "" ∧ u ∈ s.users ∧ u.isLive = true ∧ SameAddress u.data.email address := by
  rw [← noCaseSame_iff_sameAddress hnul]
  constructor
  · rintro ⟨address', howner', h⟩
    cases howner.symm.trans howner'
    exact h
  · exact fun h => ⟨address, howner, h⟩

end Store

namespace Account

open Store

variable {s : Store} {token : String} {r : Row KeyData} {u : Row UserData} {reached : Int → Bool}

theorem resolve_without_key (hs : s.Sound)
    (h : isTokenLike token = false ∨ ∀ r, ¬ s.KeyOf token r) :
    resolve s token reached = .ok (.error .invalid) := by
  rw [resolve]
  split
  · rfl
  · rename_i hlike
    have hnone := h.resolve_left (by simpa using hlike)
    rcases hs.keyByDigest? (tokenDigest token) with ⟨hfound, -⟩ | ⟨key, -, x, hx, hlive, hdigest, -⟩
    · rw [hfound]
    · exact absurd ⟨hx, hlive, hdigest⟩ (hnone x)

/-- Of the row of the key only its data count. -/
theorem resolve_with_key (hs : s.Sound) (hlike : isTokenLike token = true)
    (hr : s.KeyOf token r) : resolve s token reached
      = if r.data.expires.any reached then .ok (.error .expired) else ownerOf s r.item := by
  rw [resolve, if_neg (by simp [hlike])]
  rcases hs.keyByDigest? (tokenDigest token) with
    ⟨-, hnone⟩ | ⟨key, hfound, x, hx, hlive, hdigest, -, hdata⟩
  · exact absurd hr.2.2 (hnone r hr.1 hr.2.1)
  · have hsame : x = r := hs.keyOf_unique hr ⟨hx, hlive, hdigest⟩
    have howner : ownerOf s key = ownerOf s r.item := by
      rw [ownerOf, ownerOf, hdata, hsame]
      rfl
    rw [hfound]
    dsimp only
    rw [hasExpired, howner, hdata, hsame]

theorem ownerOf_owned (hs : s.Sound) (h : s.OwnedBy r u) : ownerOf s r.item = .ok (.ok u.item) := by
  obtain ⟨address, howner, hfilled, hmem, hlive, hsame⟩ := h
  have hfound := hs.userByEmail?_of_mem (mem_candidates.2 ⟨⟨hmem, hlive⟩, hsame⟩)
  rw [readRow?_timed (hs.users.times u hmem)] at hfound
  have howner : r.item.data.owner = some address := howner
  rw [ownerOf, howner]
  dsimp only
  rw [if_neg hfilled, hfound]

theorem ownerOf_unowned (hs : s.Sound) (h : ∀ u, ¬ s.OwnedBy r u) :
    ownerOf s r.item = .ok (.error .ownerMissing) := by
  rw [ownerOf]
  cases howner : r.item.data.owner with
  | none => rfl
  | some address =>
    dsimp only
    split
    · rfl
    · rename_i hfilled
      rcases hs.userByEmail? address with ⟨hnone, -⟩ | ⟨user, -, u, hmem, -, hlive, hsame⟩
      · rw [hnone]
      · exact absurd ⟨address, howner, hfilled, hmem, hlive, hsame⟩ (h u)

/-! ### What a token resolves to -/

/-- The key of a row has expired at a moment. -/
def Due (r : Row KeyData) (moment : Option Moment) : Prop :=
  ∃ e, r.data.expires = some e ∧ ∃ v, moment = some v ∧ Moment.whole e ≤ v

theorem any_reached_iff (r : Row KeyData) (moment : Option Json.Amount) (now : Instant) :
    r.data.expires.any (Call.reached moment now) = true ↔ Due r (Call.present? moment now) := by
  rw [Option.any_eq_true]
  exact exists_congr fun e => and_congr_right fun _ => Call.reached_iff moment now e

/-- What a token should resolve to at a moment, if this is the row of its live key. -/
structure AnswersKey (s : Store) (r : Row KeyData) (moment : Option Moment)
    (answer : Except Refusal User) : Prop where
  /-- The expiry of the key has come. -/
  expired : answer = .error .expired ↔ Due r moment
  /-- The key has not expired, and it names nobody, or nobody who is live. -/
  ownerMissing : ¬ Due r moment → (answer = .error .ownerMissing ↔
    r.data.owner = none ∨ r.data.owner = some "" ∨ ∀ u, ¬ s.OwnedBy r u)
  /-- In every other case the answer is the one live user whom the key names. -/
  owner : ¬ Due r moment → answer ≠ .error .ownerMissing →
    ∃ u, s.OwnedBy r u ∧ (∀ u', s.OwnedBy r u' → u' = u) ∧ answer = .ok u.item

/-- What a token should resolve to at a moment. -/
structure AnswersToken (s : Store) (token : String) (moment : Option Moment)
    (answer : Except Refusal User) : Prop where
  /-- It is none, or has no live key. -/
  invalid : answer = .error .invalid ↔ isTokenLike token = false ∨ ∀ r, ¬ s.KeyOf token r
  /-- There is one live key at most. -/
  unique : ∀ r r', s.KeyOf token r → s.KeyOf token r' → r' = r
  key : isTokenLike token = true → ∀ r, s.KeyOf token r → AnswersKey s r moment answer

/-- A key that names nobody has no owner. -/
theorem unowned_iff : (r.data.owner = none ∨ r.data.owner = some "" ∨ ∀ u, ¬ s.OwnedBy r u) ↔
    ∀ u, ¬ s.OwnedBy r u := by
  refine ⟨?_, fun h => .inr (.inr h)⟩
  rintro (h | h | h)
  · rintro u ⟨address, howner, -⟩
    cases h.symm.trans howner
  · rintro u ⟨address, howner, hfilled, -⟩
    cases h.symm.trans howner
    exact hfilled rfl
  · exact h

theorem ownerOf_answers (hs : s.Sound) {moment : Option Moment} (hdue : ¬ Due r moment) :
    ∃ answer, ownerOf s r.item = .ok answer ∧ answer ≠ .error .invalid ∧
      AnswersKey s r moment answer := by
  by_cases hnone : ∀ u, ¬ s.OwnedBy r u
  · exact ⟨_, ownerOf_unowned hs hnone, by simp, ⟨by simp [hdue],
      fun _ => by simp [hnone], fun _ h => absurd rfl h⟩⟩
  · obtain ⟨u, hu⟩ := not_forall_not.1 hnone
    exact ⟨_, ownerOf_owned hs hu, by simp, ⟨by simp [hdue],
      fun _ => by rw [unowned_iff]; simp [hnone],
      fun _ _ => ⟨u, hu, fun u' hu' => hs.owner_unique hu hu', rfl⟩⟩⟩

/-- A sound store always answers, and as it should. -/
theorem resolve_answers (hs : s.Sound) (token : String) (moment : Option Json.Amount)
    (now : Instant) : ∃ answer, resolve s token (Call.reached moment now) = .ok answer ∧
      AnswersToken s token (Call.present? moment now) answer := by
  have hunique : ∀ r r', s.KeyOf token r → s.KeyOf token r' → r' = r :=
    fun _ _ => hs.keyOf_unique
  by_cases hnone : isTokenLike token = false ∨ ∀ r, ¬ s.KeyOf token r
  · refine ⟨_, resolve_without_key hs hnone, by simp [hnone], hunique, fun hlike r hr => ?_⟩
    rcases hnone with hnone | hnone
    · rw [hlike] at hnone; cases hnone
    · exact absurd hr (hnone r)
  · obtain ⟨hlike, r, hr⟩ : isTokenLike token = true ∧ ∃ r, s.KeyOf token r := by
      simpa using hnone
    have hkey : ∀ {answer}, AnswersKey s r (Call.present? moment now) answer →
        isTokenLike token = true → ∀ r', s.KeyOf token r' →
          AnswersKey s r' (Call.present? moment now) answer := by
      intro answer h _ r' hr'
      rw [hunique r r' hr hr']
      exact h
    rw [resolve_with_key hs hlike hr]
    by_cases hdue : Due r (Call.present? moment now)
    · rw [if_pos ((any_reached_iff r moment now).2 hdue)]
      exact ⟨_, rfl, by simp [hnone], hunique,
        hkey ⟨by simp [hdue], fun h => absurd hdue h, fun h => absurd hdue h⟩⟩
    · rw [if_neg (fun h => hdue ((any_reached_iff r moment now).1 h))]
      obtain ⟨answer, howner, hvalid, hspec⟩ := ownerOf_answers hs hdue
      exact ⟨answer, howner, by simp [hnone, hvalid], hunique, hkey hspec⟩

end Account

namespace Service

open Store Account

variable {s later : Service}

/-- The key of a token is live or was deleted, and then it is deleted for good; its expiry stays. -/
theorem Reaches.keyOf (h : s.Reaches later) (hs : s.Sound) {token : String} {r : Row KeyData}
    (hr : s.store.KeyOf token r) :
    (∃ r', later.store.KeyOf token r' ∧ r'.data = r.data) ∨ ∀ r', ¬ later.store.KeyOf token r' := by
  obtain ⟨hmem, -, hdigest⟩ := hr
  obtain ⟨r', hr', -, hdata⟩ := h.keysStay hs r hmem
  rw [← hdata] at hdigest
  by_cases hlive : r'.isLive = true
  · exact .inl ⟨r', ⟨hr', hlive, hdigest⟩, hdata⟩
  · right
    rintro x ⟨hx, hxlive, hxdigest⟩
    rw [(h.sound hs).store.digests x hx r' hr' _ hxdigest hdigest] at hxlive
    exact hlive hxlive

/-- A token that has expired is expired or invalid at every later moment. -/
theorem Reaches.expired (h : s.Reaches later) (hs : s.Sound) {token : String}
    {moment moment' : Option Json.Amount} {now now' : Instant} {v v' : Moment}
    (hv : Call.present? moment now = some v) (hv' : Call.present? moment' now' = some v')
    (hle : v ≤ v') (hexpired : resolve s.store token (Call.reached moment now)
      = .ok (.error .expired)) :
    resolve later.store token (Call.reached moment' now') = .ok (.error .expired) ∨
      resolve later.store token (Call.reached moment' now') = .ok (.error .invalid) := by
  obtain ⟨answer, hanswer, hspec⟩ := resolve_answers hs.store token moment now
  cases hanswer.symm.trans hexpired
  obtain ⟨answer, hanswer, hspec'⟩ := resolve_answers (h.sound hs).store token moment' now'
  rw [hanswer]
  -- There is a live key, since the token was not invalid.
  obtain ⟨hlike, r, hr⟩ : isTokenLike token = true ∧ ∃ r, s.store.KeyOf token r := by
    have := mt hspec.invalid.2 (by simp)
    simpa using this
  rcases h.keyOf hs hr with ⟨r', hr', hdata⟩ | hnone
  · left
    obtain ⟨e, hexpiry, w, hw, hwle⟩ := (hspec.key hlike r hr).expired.1 rfl
    cases hv.symm.trans hw
    exact congrArg _ ((hspec'.key hlike r' hr').expired.2
      ⟨e, by rw [hdata, hexpiry], v', hv', hwle.trans hle⟩)
  · exact .inr (congrArg _ (hspec'.invalid.2 (.inr hnone)))

/-- One moment is not before another. NaN is neither before nor behind any. -/
def NotBefore (earlier moment : Option Moment) : Prop :=
  ∃ v v', earlier = some v ∧ moment = some v' ∧ v ≤ v'

/-- The moments of a clock that does not go back are not before one another. -/
theorem notBefore_clock {now now' : Instant} (h : now ≤ now') :
    NotBefore (Call.present? none now) (Call.present? none now') := by
  have hmicros : (0 : ℚ) ≤ (microsPerSecond : ℤ) := by rw [microsPerSecond]; norm_num
  have hle : (now / microsPerSecond : ℚ) ≤ now' / microsPerSecond :=
    div_le_div_of_nonneg_right (by exact_mod_cast h) hmicros
  exact ⟨_, _, rfl, rfl, by rw [WithBot.coe_le_coe, WithTop.coe_le_coe]; exact hle⟩

/-- In every state that a service gets into, and for every token and every moment, resolving the
token answers what the rows say. Once the answer is that it has expired, it is expired or invalid
from then on, whatever happens. The owner of a key has the address that the key names; unless U+0000
is in it, that is the same text up to the case of ASCII letters. -/
theorem token_resolves {policy : Policy} {settings : Settings} {platform : String}
    {begin : Instant} {first : Service} (hbegin : InEra begin)
    (hstart : start policy settings platform begin = .ok first) (hreach : first.Reaches s)
    (token : String) (moment : Option Json.Amount) (now : Instant) :
    ∃ answer, resolve s.store token (Call.reached moment now) = .ok answer ∧
      (Call.resolveKey token moment).perform s now = (s, .ok (Call.resolved answer)) ∧
      AnswersToken s.store token (Call.present? moment now) answer ∧
      (∀ r u address, r.data.owner = some address → '\x00' ∉ address.toList →
        (s.store.OwnedBy r u ↔ address ≠ "" ∧ u ∈ s.store.users ∧ u.isLive = true ∧
          SameAddress u.data.email address)) ∧
      (answer = .error .expired → ∀ later, s.Reaches later → ∀ moment' now',
        NotBefore (Call.present? moment now) (Call.present? moment' now') →
        resolve later.store token (Call.reached moment' now') = .ok (.error .expired) ∨
          resolve later.store token (Call.reached moment' now') = .ok (.error .invalid)) := by
  have hs : s.Sound := hreach.sound (start_sound hbegin hstart)
  obtain ⟨answer, hanswer, hspec⟩ := resolve_answers hs.store token moment now
  refine ⟨answer, hanswer, ?_, hspec, fun r u address => ownedBy_iff, ?_⟩
  · simp only [Call.perform, Call.ask, hanswer]
  · rintro rfl later hlater moment' now' ⟨v, v', hv, hv', hle⟩
    exact hlater.expired hs hv hv' hle hanswer

/-! ### A key with an expiry, and an address with U+0000 -/

/-- A key is issued for an address. -/
def withKeyFor (s : Service) (address : String) (expires : Option Int) : Service :=
  ((Call.issueKey (some (Text.ofString address)) expires).perform s 0).1

theorem withKeyFor_step (s : Service) (address : String) (expires : Option Int) :
    s.Step (s.withKeyFor address expires) := .call 0 (.issueKey _ expires) inEra_zero rfl

/-- Why a token is refused at a moment, if it is. -/
def refusedFor (s : Service) (moment : Json.Amount) : Option Refusal :=
  match resolve s.store (Fresh.tokenText 1) (Call.reached (some moment) 0) with
  | .ok (.error why) => some why
  | _ => none

/-- The key of the first administrator is good for a hundred seconds, and not afterwards. -/
theorem token_resolves_hundred_seconds :
    ∃ first, start (.ofProfile .testing .standard) .standard "" 0 = .ok first ∧
      ∃ s, s = first.withKeyFor Settings.standard.adminEmail (some 100) ∧
        s.refusedFor (.whole 99) = none ∧ s.refusedFor (.whole 100) = some .expired ∧
        ∀ later, s.Reaches later → ∀ now ≥ 100 * microsPerSecond,
          resolve later.store (Fresh.tokenText 1) (Account.reachedAt now)
              = .ok (.error .expired) ∨
            resolve later.store (Fresh.tokenText 1) (Account.reachedAt now)
              = .ok (.error .invalid) := by
  obtain ⟨first, hstart, hgood, hexpired⟩ :
      ∃ first, start (.ofProfile .testing .standard) .standard "" 0 = .ok first ∧
        (first.withKeyFor Settings.standard.adminEmail (some 100)).refusedFor (.whole 99) = none ∧
        (first.withKeyFor Settings.standard.adminEmail (some 100)).refusedFor (.whole 100)
          = some .expired := ⟨_, rfl, by decide +kernel, by decide +kernel⟩
  refine ⟨first, hstart, _, rfl, hgood, hexpired, fun later hlater now hnow => ?_⟩
  obtain ⟨answer, hanswer, -, -, -, hlate⟩ := token_resolves inEra_zero hstart
    (.single (withKeyFor_step first _ _)) (Fresh.tokenText 1) (some (.whole 100)) 0
  rw [refusedFor, hanswer] at hexpired
  have hanswer : answer = .error .expired := by
    cases answer with
    | error why => exact congrArg _ (Option.some.inj hexpired)
    | ok user => cases hexpired
  refine hlate hanswer later hlater none now ⟨_, _, rfl, rfl, ?_⟩
  rw [Moment.whole_le, le_div_iff₀ (by rw [microsPerSecond]; norm_num)]
  exact_mod_cast hnow

/-- Somebody is added under an address with U+0000, and a key is issued for another address, which
differs from it behind that. -/
def behindNul (first : Service) : Service :=
  ((Call.createUser (newcomer "a\x00b@c.de")).perform first 0).1.withKeyFor "a\x00x@c.de" none

/-- The token of the key resolves to that user, although nobody has the address that the key names,
in any case of its letters. -/
theorem token_resolves_behind_nul :
    ∃ first, start (.ofProfile .testing .standard) .standard "" 0 = .ok first ∧
      first.Reaches first.behindNul ∧
      (∃ r, first.behindNul.store.KeyOf (Fresh.tokenText 1) r ∧ r.data.expires = none ∧
        r.data.owner = some "a\x00x@c.de") ∧
      (∀ u ∈ first.behindNul.store.users, ¬ SameAddress u.data.email "a\x00x@c.de") ∧
      ∃ user, resolve first.behindNul.store (Fresh.tokenText 1) (Account.reachedAt 0)
        = .ok (.ok user) ∧ user.data.email = "a\x00b@c.de" := by
  obtain ⟨first, hstart, hkey, hnobody, huser⟩ :
      ∃ first, start (.ofProfile .testing .standard) .standard "" 0 = .ok first ∧
        (∃ r ∈ first.behindNul.store.keys, first.behindNul.store.KeyOf (Fresh.tokenText 1) r ∧
          r.data.expires = none ∧ r.data.owner = some "a\x00x@c.de") ∧
        (∀ u ∈ first.behindNul.store.users, ¬ SameAddress u.data.email "a\x00x@c.de") ∧
        ((resolve first.behindNul.store (Fresh.tokenText 1)
          (Account.reachedAt 0)).toOption.bind Except.toOption).map (·.data.email)
            = some "a\x00b@c.de" :=
    ⟨_, rfl, by decide +kernel, by decide +kernel, by decide +kernel⟩
  obtain ⟨r, -, hkey⟩ := hkey
  refine ⟨first, hstart, .tail (.single (.call 0 _ inEra_zero rfl)) (withKeyFor_step _ _ _),
    ⟨r, hkey⟩, hnobody, resolved_of_shown huser⟩

end Service

end Pressroom

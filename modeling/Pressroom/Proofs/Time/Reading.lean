import Pressroom.Time.Iso
import Pressroom.Proofs.Number.Digits
import Pressroom.Proofs.Time.Calendar

/-!
What is written of a stamp is read back. The reader works on bytes, so the written characters are
first turned into theirs; then each part of the text is read off the front of the bytes: the digits
of a number, the date, the time of day, the offset.

An offset that is not zero and shorter than a second does not come back: the stamp that is read has
the offset zero in its place. Every other offset is `Kept`. What is read of any text is a real date and
time whose offset is kept, so it is read back as it was.
-/
namespace Pressroom

namespace Stamp

/-- The bytes of characters that take one byte each. -/
def bytesOf (cs : List Char) : List Nat := cs.map Char.toNat

/-! ### Digits -/

theorem toNat_digitChar : ∀ d < 10, (Nat.digitChar d).toNat = 48 + d := by decide

theorem digitByte?_digitChar (n : Nat) :
    digitByte? (Nat.digitChar (n % 10)).toNat = some (n % 10) := by
  have hd : n % 10 < 10 := Nat.mod_lt _ (by decide)
  rw [toNat_digitChar _ hd, digitByte?, if_pos (by omega)]
  simp

theorem filterMap_decimalDigits (w n : Nat) :
    ((bytesOf (decimalDigits w n)).filterMap digitByte?).length = w ∧
      ((bytesOf (decimalDigits w n)).filterMap digitByte?).foldl (fun a d => 10 * a + d) 0
        = n % 10 ^ w := by
  induction w generalizing n with
  | zero => simp [decimalDigits, bytesOf, Nat.mod_one]
  | succ w ih =>
    obtain ⟨hlen, hval⟩ := ih (n / 10)
    have hsplit : (bytesOf (decimalDigits (w + 1) n)).filterMap digitByte? =
        (bytesOf (decimalDigits w (n / 10))).filterMap digitByte? ++ [n % 10] := by
      simp [decimalDigits, bytesOf, digitByte?_digitChar]
    rw [hsplit, List.length_append, hlen, List.foldl_append, hval]
    refine ⟨rfl, ?_⟩
    rw [List.foldl_cons, List.foldl_nil, Nat.pow_succ, Nat.mul_comm (10 ^ w) 10, Nat.mod_mul]
    omega

theorem length_decimalDigits (w n : Nat) : (decimalDigits w n).length = w := by
  induction w generalizing n with
  | zero => rfl
  | succ w ih => rw [decimalDigits, List.length_append, ih]; rfl

/-- The digits of a number that fits are read off the front. -/
theorem takeDigits_decimalDigits (w : Nat) {n : Nat} (hn : n < 10 ^ w) (rest : List Nat) :
    takeDigits w (bytesOf (decimalDigits w n) ++ rest) = some (n, rest) := by
  obtain ⟨hlen, hval⟩ := filterMap_decimalDigits w n
  have hw : (bytesOf (decimalDigits w n)).length = w := by
    rw [bytesOf, List.length_map, length_decimalDigits]
  have htake : (bytesOf (decimalDigits w n) ++ rest).take w = bytesOf (decimalDigits w n) :=
    List.take_left' hw
  have hdrop : (bytesOf (decimalDigits w n) ++ rest).drop w = rest := List.drop_left' hw
  rw [takeDigits]
  simp only [htake, hdrop]
  rw [if_pos hlen, hval, Nat.mod_eq_of_lt hn]

theorem mem_decimalDigits {w n : Nat} {b : Nat} (h : b ∈ bytesOf (decimalDigits w n)) :
    48 ≤ b ∧ b ≤ 57 := by
  induction w generalizing n with
  | zero => simp [decimalDigits, bytesOf] at h
  | succ w ih =>
    rw [decimalDigits, bytesOf, List.map_append] at h
    rcases List.mem_append.1 h with h | h
    · exact ih h
    · have hd : n % 10 < 10 := Nat.mod_lt _ (by decide)
      rw [List.map_singleton, List.mem_singleton, toNat_digitChar _ hd] at h
      omega

theorem bytesOf_append (cs ds : List Char) : bytesOf (cs ++ ds) = bytesOf cs ++ bytesOf ds :=
  List.map_append

theorem bytesOf_cons (c : Char) (cs : List Char) : bytesOf (c :: cs) = c.toNat :: bytesOf cs := rfl

/-! ### The date -/

/-- The characters of a date. -/
def writeDate (s : Stamp) : List Char :=
  decimalDigits 4 s.year ++ '-' :: decimalDigits 2 s.month ++ '-' :: decimalDigits 2 s.day

theorem length_writeDate (s : Stamp) : (bytesOf s.writeDate).length = 10 := by
  simp [writeDate, bytesOf, length_decimalDigits]

theorem takeDash_dash (rest : List Nat) : takeDash ('-'.toNat :: rest) = (true, rest) := rfl

theorem passDash_dash (rest : List Nat) : passDash true ('-'.toNat :: rest) = some rest := rfl

/-- A number of two digits does not begin like a week. -/
theorem head?_decimalDigits (n : Nat) (rest : List Nat) :
    (bytesOf (decimalDigits 2 n) ++ rest).head? ≠ some 'W'.toNat := by
  have hlt : n / 10 % 10 < 10 := Nat.mod_lt _ (by decide)
  have hhead : (bytesOf (decimalDigits 2 n) ++ rest).head? = some (48 + n / 10 % 10) := by
    rw [← toNat_digitChar _ hlt]; rfl
  have hw : 'W'.toNat = 87 := rfl
  rw [hhead, hw, ne_eq, Option.some.injEq]
  omega

theorem readDate_writeDate {s : Stamp} (hy : s.year < 10000) (hm : s.month < 100)
    (hd : s.day < 100) : readDate (bytesOf s.writeDate) = some (s.year, s.month, s.day) := by
  have hyear := takeDigits_decimalDigits 4 (n := s.year) hy
  have hmonth := takeDigits_decimalDigits 2 (n := s.month) hm
  have hday := takeDigits_decimalDigits 2 (n := s.day) hd []
  rw [List.append_nil] at hday
  rw [writeDate, bytesOf_append, bytesOf_append, List.append_assoc, bytesOf_cons, bytesOf_cons,
    readDate, List.cons_append]
  simp only [hyear, Option.bind_eq_bind, Option.bind_some, takeDash_dash]
  rw [if_neg (head?_decimalDigits _ _), hmonth]
  simp only [Option.bind_some, passDash_dash, hday]
  rfl

/-- A written date takes up ten bytes, whatever comes after it. -/
theorem dateLength?_writeDate (s : Stamp) (rest : List Nat) :
    dateLength? (bytesOf s.writeDate ++ rest) = some 10 := by
  have hlen : (bytesOf s.writeDate ++ rest).length ≠ 7 := by
    rw [List.length_append, length_writeDate]; omega
  have hdash : (bytesOf s.writeDate ++ rest).getD 4 0 = '-'.toNat := by
    simp [writeDate, bytesOf, decimalDigits]
  have hdigit : (bytesOf s.writeDate ++ rest).getD 5 0 ≠ 'W'.toNat := by
    have hlt : s.month / 10 % 10 < 10 := Nat.mod_lt _ (by decide)
    have : (bytesOf s.writeDate ++ rest).getD 5 0 = 48 + s.month / 10 % 10 := by
      simp [writeDate, bytesOf, decimalDigits, ← toNat_digitChar _ hlt]
    rw [this]
    have : 'W'.toNat = 87 := rfl
    omega
  simp only [dateLength?]
  rw [if_neg hlen, if_pos hdash, if_neg hdigit]

/-! ### The time of day -/

/-- The characters of a time of day. -/
def writeClock (hour minute second micro : Nat) : List Char :=
  decimalDigits 2 hour ++ ':' :: decimalDigits 2 minute ++ ':' :: decimalDigits 2 second ++
    writeMicro micro

theorem follow_colon (next b : Nat) (rest : List Nat) :
    follow none next (':'.toNat :: b :: rest) = .part true (b :: rest) ∧
      follow (some true) next (':'.toNat :: b :: rest) = .part true (b :: rest) := ⟨rfl, rfl⟩

/-- Two digits behind a colon are the next part of the time. -/
theorem follow_part (next n : Nat) (rest : List Nat) :
    follow none next (':'.toNat :: (bytesOf (decimalDigits 2 n) ++ rest))
        = .part true (bytesOf (decimalDigits 2 n) ++ rest) ∧
      follow (some true) next (':'.toNat :: (bytesOf (decimalDigits 2 n) ++ rest))
        = .part true (bytesOf (decimalDigits 2 n) ++ rest) := follow_colon ..

theorem readMicro_decimalDigits (next : Nat) {micro : Nat} (h : micro < 1000000) :
    readMicro next (bytesOf (decimalDigits 6 micro)) = some (micro, next != 0) := by
  have hlen : min 6 (bytesOf (decimalDigits 6 micro)).length = 6 := rfl
  have htake := takeDigits_decimalDigits 6 (n := micro) h []
  rw [List.append_nil] at htake
  simp only [readMicro, hlen, htake, Option.bind_eq_bind, Option.bind_some]
  simp [tenTo]

/-- A whole time of day is read back; something is left over if a byte comes next. -/
theorem readClock_writeClock (next : Nat) {h m s u : Nat} (hh : h < 100) (hm : m < 100)
    (hs : s < 100) (hu : u < 1000000) :
    readClock next (bytesOf (writeClock h m s u)) = some ⟨h, m, s, u, next != 0⟩ := by
  simp only [writeClock, bytesOf_append, bytesOf_cons, List.append_assoc, List.cons_append,
    readClock, takeDigits_decimalDigits 2 (n := h) hh, Option.bind_eq_bind, Option.bind_some,
    (follow_part next m _).1, takeDigits_decimalDigits 2 (n := m) hm, (follow_part next s _).2,
    takeDigits_decimalDigits 2 (n := s) hs]
  by_cases hz : u = 0
  · subst hz; rfl
  · have hdot : follow (some true) next ('.'.toNat :: bytesOf (decimalDigits 6 u))
        = .fraction (bytesOf (decimalDigits 6 u)) := rfl
    simp only [writeMicro, if_neg hz, bytesOf_cons, hdot, readMicro_decimalDigits next hu,
      Option.bind_some]
    rfl

theorem readClock_short (next : Nat) {h m : Nat} (hh : h < 100) (hm : m < 100) :
    readClock next (bytesOf (decimalDigits 2 h ++ ':' :: decimalDigits 2 m))
      = some ⟨h, m, 0, 0, next != 0⟩ := by
  have htake := takeDigits_decimalDigits 2 (n := m) hm []
  have hpart := (follow_part next m []).1
  rw [List.append_nil] at htake hpart
  simp only [bytesOf_append, bytesOf_cons, readClock, takeDigits_decimalDigits 2 (n := h) hh,
    Option.bind_eq_bind, Option.bind_some, hpart, htake]
  rfl

/-! ### The offset -/

/-- The offsets that are read back: an offset of no whole second counts as none at all. -/
def Kept (offset : Int) : Prop := offset = 0 ∨ 1000000 ≤ offset.natAbs

instance (offset : Int) : Decidable (Kept offset) := inferInstanceAs (Decidable (_ ∨ _))

/-- An offset as it is read back. -/
def keptOffset (o : Int) : Int := if Kept o then o else 0

theorem keptOffset_cases (o : Int) :
    (o = 0 ∨ 1000000 ≤ o.natAbs) ∧ keptOffset o = o ∨ o.natAbs < 1000000 ∧ keptOffset o = 0 := by
  rw [keptOffset]
  by_cases hk : Kept o
  · rw [if_pos hk]; exact .inl ⟨hk, rfl⟩
  · rw [if_neg hk]
    rw [Kept, not_or, Nat.not_le] at hk
    exact .inr ⟨hk.2, rfl⟩

/-- A stamp as it is read back. -/
def kept (s : Stamp) : Stamp := { s with offset := s.offset.map keptOffset }

/-- Whether a stamp is read back as it was. -/
def Keeps (s : Stamp) : Prop := ∀ o ∈ s.offset, Kept o

theorem kept_eq {s : Stamp} (h : s.Keeps) : s.kept = s := by
  have hoffset : s.offset.map keptOffset = s.offset := by
    cases hso : s.offset with
    | none => rfl
    | some o => rw [Option.map_some, keptOffset, if_pos (h o hso)]
  rw [kept, hoffset]

theorem kept_eq_iff (s : Stamp) : s.kept = s ↔ s.Keeps := by
  refine ⟨fun h o ho => ?_, kept_eq⟩
  have hoffset : s.offset.map keptOffset = s.offset := congrArg offset h
  rw [Option.mem_def.1 ho, Option.map_some, Option.some.injEq] at hoffset
  rcases keptOffset_cases o with ⟨hkept, -⟩ | ⟨-, hzero⟩
  · exact hkept
  · exact .inl (hoffset.symm.trans hzero)

theorem keeps_ofInstant (t : Instant) : (ofInstant t).Keeps := by
  rintro o ⟨⟩
  exact .inl rfl

theorem kept_valid {s : Stamp} (h : s.Valid) : s.kept.Valid := by
  obtain ⟨hyear, hmonth, hday, hhour, hminute, hsecond, hmicro, hoffset⟩ := h
  refine ⟨hyear, hmonth, hday, hhour, hminute, hsecond, hmicro, ?_⟩
  intro o ho
  obtain ⟨o', ho', rfl⟩ := Option.map_eq_some_iff.1 ho
  rw [keptOffset]
  split
  · exact hoffset o' ho'
  · decide

/-- What is read back is the same time exactly if the offset is kept. -/
theorem same_kept_iff (s : Stamp) : s.kept.same s = true ↔ s.Keeps := by
  cases hso : s.offset with
  | none =>
    have hsame : s.kept.same s = (s.wall == s.wall) := by simp only [same, kept, hso]; rfl
    rw [hsame, Keeps, hso]
    exact ⟨fun _ => nofun, fun _ => beq_self_eq_true _⟩
  | some o =>
    have hsame : s.kept.same s = (s.wall - keptOffset o == s.wall - o) := by
      simp only [same, kept, hso, instant]; rfl
    have hkeeps : s.Keeps ↔ Kept o := by
      rw [Keeps, hso]
      exact ⟨fun h => h o rfl, fun h _ ho => Option.some.inj ho ▸ h⟩
    have hkept := keptOffset_cases o
    rw [hsame, hkeeps, beq_iff_eq, Kept]
    omega

/-- The characters of an offset behind its mark. -/
def writeSpan (size : Nat) : List Char :=
  if size / 1000000 % 60 = 0 ∧ size % 1000000 = 0 then
    decimalDigits 2 (size / 1000000 / 3600) ++ ':' :: decimalDigits 2 (size / 1000000 / 60 % 60)
  else
    writeClock (size / 1000000 / 3600) (size / 1000000 / 60 % 60) (size / 1000000 % 60)
      (size % 1000000)

theorem writeOffset_eq (o : Int) :
    writeOffset o = (if o < 0 then '-' else '+') :: writeSpan o.natAbs := by
  by_cases hz : o.natAbs / 1000000 % 60 = 0 ∧ o.natAbs % 1000000 = 0
  · simp [writeOffset, writeSpan, hz]
  · have hb : (decide (o.natAbs / 1000000 % 60 = 0) && decide (o.natAbs % 1000000 = 0)) = false := by
      simpa using hz
    simp [writeOffset, writeSpan, writeClock, if_neg hz, hb]

theorem readClock_writeSpan {n : Nat} (h : n < 86400000000) :
    readClock 0 (bytesOf (writeSpan n)) = some ⟨n / 1000000 / 3600,
      n / 1000000 / 60 % 60, n / 1000000 % 60, n % 1000000, false⟩ := by
  by_cases hz : n / 1000000 % 60 = 0 ∧ n % 1000000 = 0
  · rw [writeSpan, if_pos hz, readClock_short 0 (by omega) (by omega), hz.1, hz.2]; rfl
  · rw [writeSpan, if_neg hz, readClock_writeClock 0 (by omega) (by omega) (by omega) (by omega)]
    rfl

/-- An offset is read as far as it is kept. -/
theorem readOffset_writeOffset {o : Int} (hlo : -microsPerDay < o) (hhi : o < microsPerDay) :
    readOffset (bytesOf (writeOffset o)) = some (keptOffset o) := by
  have hday : microsPerDay = 86400000000 := rfl
  have hmicros : microsPerSecond = 1000000 := rfl
  have hclock := readClock_writeSpan (n := o.natAbs) (by omega)
  rw [writeOffset_eq, bytesOf_cons, readOffset]
  have hkept := keptOffset_cases o
  by_cases hneg : o < 0
  · rw [if_pos hneg, if_neg (by decide)]
    simp only [hclock, Option.bind_eq_bind, Option.bind_some, Bool.false_eq_true, if_false, if_true,
      Option.pure_def, Option.some.injEq, hmicros]
    split <;> omega
  · rw [if_neg hneg, if_neg (by decide)]
    have hplus : ¬ '+'.toNat = '-'.toNat := by decide
    simp only [hclock, Option.bind_eq_bind, Option.bind_some, Bool.false_eq_true, if_false,
      Option.pure_def, Option.some.injEq, hmicros, if_neg hplus]
    split <;> omega

/-! ### Time and offset together -/

/-- The characters of an offset that may be missing. -/
def writeOffset? : Option Int → List Char
  | some o => writeOffset o
  | none => []

theorem mem_writeMicro {u b : Nat} (h : b ∈ bytesOf (writeMicro u)) :
    b = 46 ∨ 48 ≤ b ∧ b ≤ 57 := by
  rw [writeMicro] at h
  split at h
  · simp [bytesOf] at h
  · rw [bytesOf_cons, List.mem_cons] at h
    exact h.imp id mem_decimalDigits

/-- The bytes of a time are digits, colons and a point. -/
theorem mem_writeClock {h m s u b : Nat} (hb : b ∈ bytesOf (writeClock h m s u)) :
    b = 46 ∨ 48 ≤ b ∧ b ≤ 58 := by
  have hcolon : ':'.toNat = 58 := rfl
  have hdigit : ∀ {n}, b ∈ bytesOf (decimalDigits 2 n) → 48 ≤ b ∧ b ≤ 57 := mem_decimalDigits
  simp only [writeClock, bytesOf_append, bytesOf_cons, List.mem_append, List.mem_cons] at hb
  rcases hb with ((hb | rfl | hb) | rfl | hb) | hb
  · have := hdigit hb; omega
  · omega
  · have := hdigit hb; omega
  · omega
  · have := hdigit hb; omega
  · have := mem_writeMicro hb; omega

theorem isOffsetMark_writeClock {h m s u b : Nat} (hb : b ∈ bytesOf (writeClock h m s u)) :
    (!isOffsetMark b) = true := by
  have hrange := mem_writeClock hb
  have hplus : '+'.toNat = 43 := rfl
  have hminus : '-'.toNat = 45 := rfl
  have hzed : 'Z'.toNat = 90 := rfl
  simp only [isOffsetMark, hplus, hminus, hzed, Bool.not_eq_true', Bool.or_eq_false_iff,
    decide_eq_false_iff_not]
  omega

/-- An offset begins with a mark. -/
theorem isOffsetMark_writeOffset (o : Int) :
    ∃ mark rest, bytesOf (writeOffset o) = mark :: rest ∧ isOffsetMark mark = true := by
  refine ⟨_, _, by rw [writeOffset_eq, bytesOf_cons], ?_⟩
  by_cases hneg : o < 0
  · rw [if_pos hneg]; rfl
  · rw [if_neg hneg]; rfl

theorem readTime_write {h m s u : Nat} (hh : h < 100) (hm : m < 100) (hs : s < 100)
    (hu : u < 1000000) {offset : Option Int}
    (ho : ∀ o ∈ offset, -microsPerDay < o ∧ o < microsPerDay) :
    ∃ leftover, readTime (bytesOf (writeClock h m s u ++ writeOffset? offset))
      = some (⟨h, m, s, u, leftover⟩, offset.map keptOffset) := by
  have hall : ∀ b ∈ bytesOf (writeClock h m s u), (!isOffsetMark b) = true :=
    fun b hb => isOffsetMark_writeClock hb
  rw [bytesOf_append, readTime, List.takeWhile_append_of_pos hall, List.dropWhile_append_of_pos hall]
  cases offset with
  | none =>
    have hnil : bytesOf (writeOffset? none) = [] := rfl
    exact ⟨false, by simp [hnil, readClock_writeClock 0 hh hm hs hu]⟩
  | some o =>
    obtain ⟨hlo, hhi⟩ := ho o rfl
    obtain ⟨mark, rest, hmark, hm'⟩ := isOffsetMark_writeOffset o
    have hread := readOffset_writeOffset hlo hhi
    rw [hmark] at hread
    exact ⟨mark != 0, by
      simp [writeOffset?, hmark, hm', readClock_writeClock mark hh hm hs hu, hread]⟩

/-! ### The whole text -/

theorem write_eq (s : Stamp) : s.write = s.writeDate ++ 'T' ::
    (writeClock s.hour s.minute s.second s.micro ++ writeOffset? s.offset) := by
  cases ho : s.offset <;>
    simp [write, writeDate, writeClock, writeOffset?, ho, List.append_assoc]

theorem readNumbers_write {s : Stamp} (hv : s.Valid) :
    readNumbers (bytesOf s.write) = some s.kept := by
  obtain ⟨⟨-, hy⟩, ⟨-, hmo⟩, ⟨-, hd⟩, hh, hmi, hs, hu, ho⟩ := hv
  have hday : s.day ≤ 31 := Nat.le_trans hd (Calendar.daysInMonth_le ..)
  have hdate := readDate_writeDate (s := s) (by omega) (by omega) (by omega)
  obtain ⟨leftover, htime⟩ := readTime_write (h := s.hour) (m := s.minute) (s := s.second)
    (by omega) (by omega) (by omega) hu ho
  have htake : ∀ rest, (bytesOf s.writeDate ++ rest).take 10 = bytesOf s.writeDate :=
    fun rest => List.take_left' (length_writeDate s)
  have hdrop : ∀ rest, (bytesOf s.writeDate ++ rest).drop 10 = rest :=
    fun rest => List.drop_left' (length_writeDate s)
  rw [write_eq, bytesOf_append, bytesOf_cons, readNumbers, dateLength?_writeDate]
  simp only [Option.bind_eq_bind, Option.bind_some, htake, hdrop, hdate]
  have hskip : ∀ rest, dropCharacter ('T'.toNat :: rest) = rest := fun _ => rfl
  simp only [hskip, htime, Option.bind_some]
  rfl

theorem checked_valid {s : Stamp} (hv : s.Valid) : checked s = .ok s := by
  obtain ⟨⟨hy₁, hy⟩, ⟨hm₁, hmo⟩, ⟨hd₁, hd⟩, hh, hmi, hs, -, ho⟩ := hv
  have hoff : (s.offset.any fun o => decide (o ≤ -microsPerDay) || decide (microsPerDay ≤ o))
      = false := by
    cases hso : s.offset with
    | none => rfl
    | some o =>
      obtain ⟨hlo, hhi⟩ := ho o hso
      simp [hlo, hhi]
  rw [checked, if_neg (by rw [hoff]; decide), if_neg (by simp; omega), if_neg (by simp; omega),
    if_neg (by simp; omega), if_neg (by omega), if_neg (by omega), if_neg (by omega)]

/-- The bytes of a stamp are ASCII, and neither a space nor `Z` is among them. -/
theorem mem_write {s : Stamp} {b : Nat} (hb : b ∈ bytesOf s.write) : 43 ≤ b ∧ b < 90 := by
  have hdash : '-'.toNat = 45 := rfl
  have hplus : '+'.toNat = 43 := rfl
  have hcolon : ':'.toNat = 58 := rfl
  have htee : 'T'.toNat = 84 := rfl
  have hdigit : ∀ {w n}, b ∈ bytesOf (decimalDigits w n) → 48 ≤ b ∧ b ≤ 57 := mem_decimalDigits
  have hoffset : b ∈ bytesOf (writeOffset? s.offset) → 43 ≤ b ∧ b < 90 := by
    intro h
    cases hso : s.offset with
    | none => rw [hso] at h; simp [writeOffset?, bytesOf] at h
    | some o =>
      rw [hso, writeOffset?, writeOffset_eq, bytesOf_cons, List.mem_cons] at h
      rcases h with h | h
      · split at h <;> omega
      · rw [writeSpan] at h
        split at h
        · rw [bytesOf_append, bytesOf_cons, List.mem_append, List.mem_cons] at h
          rcases h with h | h | h
          · have := hdigit h; omega
          · omega
          · have := hdigit h; omega
        · have := mem_writeClock h; omega
  simp only [write_eq, writeDate, bytesOf_append, bytesOf_cons, List.mem_append, List.mem_cons] at hb
  rcases hb with ((hb | hb | hb) | hb | hb) | hb | hb | hb
  · have := hdigit hb; omega
  · omega
  · have := hdigit hb; omega
  · omega
  · have := hdigit hb; omega
  · omega
  · have := mem_writeClock hb; omega
  · exact hoffset hb

end Stamp

namespace Text

/-- ASCII characters are their own bytes. -/
theorem utf8_ofChars {cs : List Char} (h : ∀ b ∈ Stamp.bytesOf cs, b < 128) :
    (ofChars cs).utf8 = Stamp.bytesOf cs := by
  induction cs with
  | nil => rfl
  | cons c cs ih =>
    have hc : c.toNat < 128 := h _ List.mem_cons_self
    have hcs := ih fun b hb => h b (List.mem_cons_of_mem _ hb)
    rw [utf8] at hcs ⊢
    rw [ofChars, List.map_cons, List.flatMap_cons, ← ofChars, hcs, Point.code, utf8Code, if_pos hc]
    rfl

end Text

namespace Stamp

/-- Characters are no lone halves, so nothing is replaced. -/
theorem plainSeparator_ofChars (cs : List Char) :
    plainSeparator (Text.ofChars cs) = Text.ofChars cs := by
  have hnone : ∀ i : Nat, ((Text.ofChars cs)[i]?).any (fun p => p.char?.isNone) = false := by
    intro i
    rw [Text.ofChars, List.getElem?_map]
    cases cs[i]? <;> rfl
  rw [plainSeparator, List.find?_eq_none.2 (fun i _ => by rw [hnone i]; decide)]

/-- What is written of a stamp is read back, its offset as far as it is kept. -/
theorem read_written {s : Stamp} (hv : s.Valid) :
    Stamp.read (Text.ofString s.iso) = .ok s.kept := by
  have htext : Text.ofString s.iso = Text.ofChars s.write := by
    rw [Text.ofString, iso, String.toList_ofList]
  have hlen : ¬ (Text.ofChars s.write).length < 7 := by
    have : 10 ≤ (bytesOf s.write).length := by
      rw [write_eq, bytesOf_append, List.length_append, length_writeDate]; omega
    rw [bytesOf, List.length_map] at this
    rw [Text.ofChars, List.length_map]; omega
  have hzed : ¬ (Text.ofChars s.write).getLast? = some (.char 'Z') := by
    intro h
    obtain ⟨c, hc, hz⟩ := List.mem_map.1 (List.mem_of_getLast? h)
    have hlt : c.toNat < 90 := (mem_write (List.mem_map_of_mem hc)).2
    rw [Point.char.inj hz] at hlt
    exact absurd hlt (by decide)
  rw [htext, Stamp.read, if_neg hzed, readNumeric, if_neg hlen, plainSeparator_ofChars,
    Text.chars?_ofChars]
  simp only [Text.utf8_ofChars (fun b hb => Nat.lt_trans (mem_write hb).2 (by decide)),
    readNumbers_write hv]
  exact checked_valid (kept_valid hv)

/-- What is written of a stamp is read back. -/
theorem read_iso {s : Stamp} (hv : s.Valid) (hk : ∀ o ∈ s.offset, Kept o) :
    Stamp.read (Text.ofString s.iso) = .ok s := by
  rw [read_written hv, kept_eq hk]

/-! ### What is read -/

theorem digitByte?_lt {b d : Nat} (h : digitByte? b = some d) : d < 10 := by
  rw [digitByte?] at h
  split at h
  · cases h; omega
  · cases h

theorem takeDigits_lt {n v : Nat} {bs rest : List Nat} (h : takeDigits n bs = some (v, rest)) :
    v < 10 ^ n := by
  rw [takeDigits] at h
  split at h
  · rename_i hlen
    cases h
    have hdigits : ∀ d ∈ (bs.take n).filterMap digitByte?, d < 10 := by
      intro d hd
      obtain ⟨b, -, hb⟩ := List.mem_filterMap.1 hd
      exact digitByte?_lt hb
    have hlt := ofDigits_lt hdigits
    rwa [hlen] at hlt
  · cases h

/-- The decimals that are read are less than a second. -/
theorem readMicro_lt {next micro : Nat} {leftover : Bool} {bs : List Nat}
    (h : readMicro next bs = some (micro, leftover)) : micro < 1000000 := by
  simp only [readMicro, Option.bind_eq_bind, Option.bind_eq_some_iff] at h
  obtain ⟨⟨v, rest⟩, htake, h⟩ := h
  cases h
  have hn : min 6 bs.length ≤ 6 := Nat.min_le_left ..
  have hv := takeDigits_lt htake
  calc v * tenTo (6 - min 6 bs.length)
      < 10 ^ min 6 bs.length * tenTo (6 - min 6 bs.length) :=
        Nat.mul_lt_mul_of_pos_right hv (Nat.pow_pos (by decide))
    _ = 10 ^ (min 6 bs.length + (6 - min 6 bs.length)) := (Nat.pow_add ..).symm
    _ = 1000000 := by rw [Nat.add_sub_cancel' hn]; rfl

/-- A clock has the decimals it was given, or none. -/
theorem micro_of_bind {next : Nat} {bs : List Nat} {c : Clock} {f : Nat × Bool → Clock}
    (hf : ∀ r, (f r).micro = r.1) (h : ((readMicro next bs).bind fun r => some (f r)) = some c) :
    c.micro < 1000000 := by
  obtain ⟨r, hr, hc⟩ := Option.bind_eq_some_iff.1 h
  cases hc
  rw [hf]
  exact readMicro_lt hr

theorem readClock_micro {next : Nat} {bs : List Nat} {c : Clock}
    (h : readClock next bs = some c) : c.micro < 1000000 := by
  simp only [readClock, Option.bind_eq_bind, Option.pure_def] at h
  obtain ⟨⟨hour, rest⟩, -, h⟩ := Option.bind_eq_some_iff.1 h
  dsimp only at h
  split at h
  · cases h
  · cases h; exact Nat.succ_pos _
  · exact micro_of_bind (fun _ => rfl) h
  · obtain ⟨⟨minute, rest⟩, -, h⟩ := Option.bind_eq_some_iff.1 h
    dsimp only at h
    split at h
    · cases h
    · cases h; exact Nat.succ_pos _
    · exact micro_of_bind (fun _ => rfl) h
    · obtain ⟨⟨second, rest⟩, -, h⟩ := Option.bind_eq_some_iff.1 h
      dsimp only at h
      split at h
      · cases h
      · cases h; exact Nat.succ_pos _
      · exact micro_of_bind (fun _ => rfl) h
      · exact micro_of_bind (fun _ => rfl) h

/-- An offset that is read is none at all or a second and more. -/
theorem readOffset_kept {bs : List Nat} {o : Int} (h : readOffset bs = some o) : Kept o := by
  cases bs with
  | nil => cases h
  | cons mark rest =>
    rw [readOffset] at h
    split at h
    · split at h
      · cases h; exact .inl rfl
      · cases h
    · simp only [Option.bind_eq_bind, Option.pure_def] at h
      obtain ⟨c, hc, h⟩ := Option.bind_eq_some_iff.1 h
      have hmicro := readClock_micro hc
      have hmicros : microsPerSecond = 1000000 := rfl
      split at h
      · cases h
      · rw [hmicros] at h
        have ho := Option.some.inj h
        rw [Kept]
        split at ho <;> split at ho <;> omega

/-- The decimals of a time that is read are less than a second, and its offset is kept. -/
theorem readTime_kept {bs : List Nat} {c : Clock} {offset : Option Int}
    (h : readTime bs = some (c, offset)) : c.micro < 1000000 ∧ ∀ o ∈ offset, Kept o := by
  simp only [readTime, Option.bind_eq_bind, Option.pure_def] at h
  obtain ⟨c', hc, h⟩ := Option.bind_eq_some_iff.1 h
  have hmicro := readClock_micro hc
  split at h
  · split at h
    · cases h
    · cases h; exact ⟨hmicro, fun _ ho => nomatch ho⟩
  · obtain ⟨o, ho, h⟩ := Option.bind_eq_some_iff.1 h
    cases h
    exact ⟨hmicro, fun o' ho' => Option.some.inj ho' ▸ readOffset_kept ho⟩

theorem readNumbers_kept {bs : List Nat} {s : Stamp} (h : readNumbers bs = some s) :
    s.micro < 1000000 ∧ s.Keeps := by
  simp only [readNumbers, Option.bind_eq_bind, Option.pure_def] at h
  obtain ⟨n, -, h⟩ := Option.bind_eq_some_iff.1 h
  obtain ⟨⟨year, month, day⟩, -, h⟩ := Option.bind_eq_some_iff.1 h
  dsimp only at h
  split at h
  · cases h; exact ⟨Nat.succ_pos _, fun _ ho => nomatch ho⟩
  · obtain ⟨⟨c, offset⟩, htime, h⟩ := Option.bind_eq_some_iff.1 h
    cases h
    exact readTime_kept htime

theorem valid_of_checked {s t : Stamp} (hmicro : s.micro < 1000000) (h : checked s = .ok t) :
    t = s ∧ s.Valid := by
  rw [checked] at h
  split at h; · cases h
  split at h; · cases h
  split at h; · cases h
  split at h; · cases h
  split at h; · cases h
  split at h; · cases h
  split at h; · cases h
  rename_i hoffset hyear hmonth hday hhour hminute hsecond
  simp only [Bool.or_eq_true, decide_eq_true_eq, not_or, Nat.not_lt] at hyear hmonth hday
  cases h
  refine ⟨rfl, hyear, hmonth, hday, by omega, by omega, by omega, hmicro, fun o ho => ?_⟩
  rw [Option.mem_def.1 ho, Option.any_some, Bool.or_eq_true, decide_eq_true_eq, decide_eq_true_eq,
    not_or] at hoffset
  omega

/-- What is read is a real date and time that is read back as it was. -/
theorem read_valid {t : Text} {s : Stamp} (h : Stamp.read t = .ok s) : s.Valid ∧ s.Keeps := by
  have hnumeric : ∀ t, readNumeric t = .ok s → s.Valid ∧ s.Keeps := by
    intro t h
    rw [readNumeric] at h
    split at h
    · cases h
    · split at h
      · cases h
      · split at h
        · cases h
        · rename_i numbers hnumbers
          obtain ⟨hmicro, hkept⟩ := readNumbers_kept hnumbers
          obtain ⟨rfl, hvalid⟩ := valid_of_checked hmicro h
          exact ⟨hvalid, hkept⟩
  rw [Stamp.read] at h
  split at h
  · exact hnumeric _ h
  · exact hnumeric _ h

end Stamp

end Pressroom

import Mathlib.Data.List.Nodup
import Pressroom.Proofs.Json.Number
import Pressroom.Proofs.Json.Text
import Pressroom.Proofs.Result

/-!
Objects of texts and whole numbers. Such an object is read back after it was written, member by
member; and the members of any object that is read are as they can be written again.
-/
namespace Pressroom

namespace Json

/-! ### Members by name -/

section Members

variable {ms : List (Text × Json)} {name : Text} {v : Json}

/-- Where no name stands twice, the order of the members makes no difference. -/
theorem lookup_perm {ns : List (Text × Json)} (hp : ms.Perm ns) (hn : (ms.map (·.1)).Nodup)
    (name : Text) : ns.lookup name = ms.lookup name := by
  have hn' : (ns.map (·.1)).Nodup := (hp.map _).nodup_iff.1 hn
  ext v
  rw [lookup_iff_mem hn, lookup_iff_mem hn', hp.mem_iff]

theorem getD_of_get? {data : Json} {name : String} (h : data.get? name = some v) :
    data.getD name = v := by
  rw [getD, h, Option.getD_some]

/-- A value that is not null is there. -/
theorem get?_of_getD {data : Json} {name : String} (h : data.getD name = v) (hv : v ≠ .null) :
    data.get? name = some v := by
  rw [getD] at h
  cases hget : data.get? name with
  | none => rw [hget] at h; exact absurd h.symm hv
  | some w => rw [hget] at h; exact congrArg some h

/-- An object of named members has the first of them with the name. -/
theorem get?_ofFields (fields : List (String × Json)) (name : String) :
    (ofFields fields).get? name = fields.lookup name := by
  rw [ofFields, get?]
  induction fields with
  | nil => rfl
  | cons f fields ih =>
    have hkey : (Text.ofString name == Text.ofString f.1) = (name == f.1) := by
      rw [Bool.eq_iff_iff, beq_iff_eq, beq_iff_eq]
      exact ⟨Text.ofString_injective, congrArg _⟩
    rw [List.map_cons, List.lookup_cons, List.lookup_cons, hkey, ih]

theorem setMember_new (h : name ∉ ms.map (·.1)) : setMember name v ms = ms ++ [(name, v)] := by
  induction ms with
  | nil => rfl
  | cons m ms ih =>
    obtain ⟨k, w⟩ := m
    rw [List.map_cons, List.mem_cons, not_or] at h
    rw [setMember, if_neg (Ne.symm h.1), ih h.2, List.cons_append]

/-- Where no name stands twice, nothing is settled. -/
theorem settle_of_nodup (hn : (ms.map (·.1)).Nodup) : settle ms = ms := by
  have hfold : ∀ kept : List (Text × Json), ((kept ++ ms).map (·.1)).Nodup →
      ms.foldl (fun kept m => setMember m.1 m.2 kept) kept = kept ++ ms := by
    clear hn
    induction ms with
    | nil => intro kept _; rw [List.foldl_nil, List.append_nil]
    | cons m ms ih =>
      intro kept hn
      have hnew : m.1 ∉ kept.map (·.1) := by
        rw [List.map_append, List.nodup_append] at hn
        exact fun h => hn.2.2 _ h _ List.mem_cons_self rfl
      rw [List.append_cons] at hn
      rw [List.foldl_cons, setMember_new hnew, ih _ hn, ← List.append_cons]
  exact hfold [] hn

/-- Settling takes no value that was not there. -/
theorem mem_setMember {ms : List (Text × Json)} {m : Text × Json}
    (h : m ∈ setMember name v ms) : m.2 = v ∨ ∃ n ∈ ms, n.2 = m.2 := by
  induction ms with
  | nil => rw [List.mem_singleton.1 h]; exact .inl rfl
  | cons k ms ih =>
    rw [setMember] at h
    split at h
    · rcases List.mem_cons.1 h with rfl | h
      · exact .inl rfl
      · exact .inr ⟨m, List.mem_cons_of_mem _ h, rfl⟩
    · rcases List.mem_cons.1 h with rfl | h
      · exact .inr ⟨_, List.mem_cons_self, rfl⟩
      · exact (ih h).imp_right fun ⟨n, hn, hsame⟩ => ⟨n, List.mem_cons_of_mem _ hn, hsame⟩

theorem mem_settle {m : Text × Json} (h : m ∈ settle ms) : ∃ n ∈ ms, n.2 = m.2 := by
  have hfold : ∀ kept : List (Text × Json),
      m ∈ ms.foldl (fun kept m => setMember m.1 m.2 kept) kept →
      (∃ n ∈ kept, n.2 = m.2) ∨ ∃ n ∈ ms, n.2 = m.2 := by
    clear h
    induction ms with
    | nil => exact fun kept h => .inl ⟨m, h, rfl⟩
    | cons k ms ih =>
      intro kept h
      rcases ih _ h with ⟨n, hn, hsame⟩ | ⟨n, hn, hsame⟩
      · rcases mem_setMember hn with hv | ⟨n', hn', hsame'⟩
        · exact .inr ⟨k, List.mem_cons_self, hv.symm.trans hsame⟩
        · exact .inl ⟨n', hn', hsame'.trans hsame⟩
      · exact .inr ⟨n, List.mem_cons_of_mem _ hn, hsame⟩
  rcases hfold [] h with ⟨n, hn, -⟩ | hfound
  · cases hn
  · exact hfound

theorem sortMembers_perm (ms : List (Text × Json)) : (sortMembers ms).Perm ms :=
  List.mergeSort_perm ..

end Members

/-! ### Writing and reading -/

/-- A joined text, or a whole number that is not too long. -/
inductive Plain : Json → Prop
  | text {t : Text} (joined : t.Joined) : Plain (.text t)
  | whole {n : Int} (short : Short n) : Plain (.whole n)

theorem plain_string (s : String) : Plain (.string s) := .text (Text.joined_ofString s)

/-- What may come after a member: a comma or the closing mark. -/
inductive AfterMember : List Char → Prop
  | comma (rest : List Char) : AfterMember (',' :: rest)
  | close (rest : List Char) : AfterMember ('\x7d' :: rest)

theorem AfterMember.endsNumber {rest : List Char} (h : AfterMember rest) : EndsNumber rest := by
  cases h <;> exact ⟨rfl, by decide, by decide, by decide⟩

theorem writeText_append (t : Text) (rest : List Char) :
    writeText t ++ rest = '"' :: (t.flatMap writePoint ++ '"' :: rest) := by
  simp only [writeText, List.cons_append, List.append_assoc, List.nil_append]

/-- A plain value that is written is read back, whatever comes after it. -/
theorem readValue_plain {v : Json} (hv : Plain v) (fuel : Nat) {rest : List Char}
    (hrest : AfterMember rest) : readValue (fuel + 1) (write v ++ rest) = .ok (v, rest) := by
  cases hv with
  | text joined =>
    rw [write, writeText_append, readValue, readText_write joined]
    rfl
  | whole short => exact readValue_whole fuel short hrest.endsNumber

/-- A plain value does not begin with a blank. -/
theorem skipSpace_write {v : Json} (hv : Plain v) (rest : List Char) :
    skipSpace (' ' :: (write v ++ rest)) = write v ++ rest := by
  have hfirst : ∃ c tail, write v = c :: tail ∧ isSpace c = false := by
    cases hv with
    | text joined => exact ⟨_, _, rfl, rfl⟩
    | @whole n short =>
      have hdigit : ∀ d < 10, isSpace (Nat.digitChar d) = false := by decide
      cases n with
      | ofNat m =>
        obtain ⟨d, hd, tail, hdigits, -⟩ := toDigits_cons m
        exact ⟨_, tail, Nat.toList_repr.trans hdigits, hdigit d hd⟩
      | negSucc m => exact ⟨'-', _, String.toList_append, rfl⟩
  obtain ⟨c, tail, hwrite, hc⟩ := hfirst
  rw [hwrite, List.cons_append, skipSpace, List.dropWhile_cons_of_pos (by rfl),
    List.dropWhile_cons_of_neg (by rw [hc]; decide)]

section Step

variable {name : Text} {v : Json} (hname : name.Joined) (hv : Plain v) (fuel : Nat)
include hname hv

theorem readMembers_last (rest : List Char) :
    readMembers (fuel + 2) (writeText name ++ [':', ' '] ++ write v ++ '\x7d' :: rest)
      = .ok ([(name, v)], rest) := by
  have hvalue := readValue_plain hv fuel (.close rest)
  have hcolon : ∀ cs, skipSpace (':' :: cs) = ':' :: cs := fun _ => rfl
  have hclose : ∀ cs, skipSpace ('\x7d' :: cs) = '\x7d' :: cs := fun _ => rfl
  simp only [List.append_assoc, writeText_append, readMembers, readText_write hname,
    List.cons_append, List.nil_append, hcolon, skipSpace_write hv, hvalue, hclose]

theorem readMembers_more (more : List Char) :
    readMembers (fuel + 2) (writeText name ++ [':', ' '] ++ write v ++ [',', ' '] ++ '"' :: more)
      = (readMembers (fuel + 1) ('"' :: more)).map fun r => ((name, v) :: r.1, r.2) := by
  have hvalue := readValue_plain hv fuel (.comma (' ' :: '"' :: more))
  have hcolon : ∀ cs, skipSpace (':' :: cs) = ':' :: cs := fun _ => rfl
  have hcomma : ∀ cs, skipSpace (',' :: cs) = ',' :: cs := fun _ => rfl
  have hquote : ∀ cs, skipSpace (' ' :: '"' :: cs) = '"' :: cs := fun _ => rfl
  rw [List.append_assoc, List.append_assoc, List.append_assoc, writeText_append, readMembers]
  simp only [readText_write hname, List.cons_append, List.nil_append, hcolon, skipSpace_write hv,
    hvalue, hcomma, hquote]

end Step

/-- Members that are written are read back, given a unit of fuel more than there are members. -/
theorem readMembers_write {ms : List (Text × Json)} (hne : ms ≠ [])
    (hms : ∀ m ∈ ms, m.1.Joined ∧ Plain m.2) (rest : List Char) (fuel : Nat)
    (hfuel : ms.length < fuel) :
    readMembers fuel (writeMembers ms ++ '\x7d' :: rest) = .ok (ms, rest) := by
  induction ms generalizing fuel with
  | nil => exact absurd rfl hne
  | cons m ms ih =>
    obtain ⟨name, v⟩ := m
    obtain ⟨hname, hv⟩ := hms (name, v) List.mem_cons_self
    obtain ⟨fuel, rfl⟩ : ∃ k, fuel = k + 2 := ⟨fuel - 2, by rw [List.length_cons] at hfuel; omega⟩
    cases ms with
    | nil => rw [writeMembers]; exact readMembers_last hname hv fuel rest
    | cons m' ms =>
      have ih := ih (List.cons_ne_nil _ _) (fun m hm => hms m (List.mem_cons_of_mem _ hm)) (fuel + 1)
        (by rw [List.length_cons] at hfuel; omega)
      obtain ⟨more, hmore⟩ : ∃ more, writeMembers (m' :: ms) ++ '\x7d' :: rest = '"' :: more := by
        cases ms <;> exact ⟨_, rfl⟩
      rw [writeMembers, List.append_assoc, hmore, readMembers_more hname hv, ← hmore, ih]
      · rfl
      · exact List.cons_ne_nil _ _

theorem length_writeMembers (ms : List (Text × Json)) : ms.length ≤ (writeMembers ms).length := by
  induction ms with
  | nil => exact Nat.le_refl _
  | cons m ms ih =>
    cases ms with
    | nil =>
      rw [writeMembers, List.length_append, List.length_append]
      simp only [List.length_cons, List.length_nil]
      omega
    | cons m' ms =>
      rw [writeMembers, List.length_append, List.length_append, List.length_append,
        List.length_append]
      · simp only [List.length_cons, List.length_nil] at ih ⊢
        omega
      · exact List.cons_ne_nil _ _

/-- An object of plain values that is written is read back. -/
theorem readChars_write {ms : List (Text × Json)} (hms : ∀ m ∈ ms, m.1.Joined ∧ Plain m.2)
    (hn : (ms.map (·.1)).Nodup) : readChars (write (.object ms)) = .ok (.object ms) := by
  have hwrite : write (.object ms) = '\x7b' :: (writeMembers ms ++ ['\x7d']) := by rw [write]; rfl
  have hopen : ∀ cs v, readValue (2 * ('\x7b' :: cs).length + 2) ('\x7b' :: cs) = .ok (v, []) →
      readChars ('\x7b' :: cs) = .ok v := by
    intro cs v hread
    have hskip : skipSpace ('\x7b' :: cs) = '\x7b' :: cs := rfl
    rw [readChars]
    · rw [hskip, hread]; rfl
    · intro _ heq; cases heq
  have hvalue : readValue (2 * ('\x7b' :: (writeMembers ms ++ ['\x7d'])).length + 2)
      ('\x7b' :: (writeMembers ms ++ ['\x7d'])) = .ok (.object ms, []) := by
    cases ms with
    | nil => rfl
    | cons m ms =>
      obtain ⟨more, hmore⟩ : ∃ more, writeMembers (m :: ms) ++ ['\x7d'] = '"' :: more := by
        cases ms <;> exact ⟨_, rfl⟩
      have hlength := length_writeMembers (m :: ms)
      have hread := readMembers_write (List.cons_ne_nil m ms) hms []
        (2 * ('\x7b' :: (writeMembers (m :: ms) ++ ['\x7d'])).length + 1)
        (by simp only [List.length_cons, List.length_append] at hlength ⊢; omega)
      have hstep : ∀ fuel, readValue (fuel + 1) ('\x7b' :: '"' :: more)
          = (readMembers fuel ('"' :: more)).map fun r => (object (settle r.1), r.2) :=
        fun _ => rfl
      rw [hmore] at hread ⊢
      rw [hstep, hread]
      dsimp only [Except.map]
      rw [settle_of_nodup hn]
  rw [hwrite, hopen _ _ hvalue]

/-! ### What is read -/

/-- As a text the value is joined, and as a whole number it is not too long. -/
def Legible (v : Json) : Prop := (∀ t, v = .text t → t.Joined) ∧ ∀ n, v = .whole n → Short n

/-- What can be read as a value. -/
inductive Readable : Json → Prop
  | null : Readable .null
  | bool (b : Bool) : Readable (.bool b)
  | whole {n : Int} (short : Short n) : Readable (.whole n)
  | real (x : Binary) : Readable (.real x)
  | text {t : Text} (joined : t.Joined) : Readable (.text t)
  | list (xs : List Json) : Readable (.list xs)
  | empty : Readable (.object [])
  | object {fuel : Nat} {cs rest : List Char} {ms : List (Text × Json)}
      (members : readMembers fuel cs = .ok (ms, rest)) : Readable (.object (settle ms))

theorem readable_of_readNumber {negative : Bool} {cs rest : List Char} {v : Json}
    (h : readNumber negative cs = .ok (v, rest)) : v.Readable := by
  rcases readNumber_cases h with ⟨x, rfl⟩ | ⟨n, rfl, hn⟩
  · exact .real x
  · exact .whole hn

theorem readable_of_readValue {fuel : Nat} {cs rest : List Char} {v : Json}
    (h : readValue fuel cs = .ok (v, rest)) : v.Readable := by
  cases fuel with
  | zero => cases h
  | succ fuel =>
    rw [readValue.eq_def] at h
    dsimp only at h
    -- A text, an object, a list, six words, and two kinds of numbers.
    split at h
    · obtain ⟨⟨t, after⟩, ht, hv⟩ := map_eq_ok.1 h
      cases hv
      exact .text (readText_joined ht)
    · split at h
      · cases h; exact .empty
      · obtain ⟨⟨ms, after⟩, hms, hv⟩ := map_eq_ok.1 h
        cases hv
        exact .object hms
    · split at h
      · cases h; exact .list []
      · obtain ⟨⟨xs, after⟩, -, hv⟩ := map_eq_ok.1 h
        cases hv
        exact .list xs
    · cases h; exact .null
    · cases h; exact .bool true
    · cases h; exact .bool false
    · cases h; exact .real _
    · cases h; exact .real _
    · cases h; exact .real _
    · exact readable_of_readNumber h
    · exact readable_of_readNumber h

theorem Readable.legible {v : Json} (h : v.Readable) : v.Legible := by
  cases h with
  | whole short => exact ⟨nofun, fun _ heq => Json.whole.inj heq ▸ short⟩
  | text joined => exact ⟨fun _ heq => Json.text.inj heq ▸ joined, nofun⟩
  | _ => exact ⟨nofun, nofun⟩

theorem legible_of_readMembers {fuel : Nat} {cs rest : List Char} {ms : List (Text × Json)}
    (h : readMembers fuel cs = .ok (ms, rest)) : ∀ m ∈ ms, m.2.Legible := by
  induction fuel generalizing cs ms with
  | zero => cases h
  | succ fuel ih =>
    rw [readMembers.eq_def] at h
    dsimp only at h
    split at h
    · split at h
      · cases h
      · split at h
        · split at h
          · cases h
          · rename_i v rest hvalue
            have hv := (readable_of_readValue hvalue).legible
            split at h
            · cases h
              exact fun m hm => List.mem_singleton.1 hm ▸ hv
            · obtain ⟨⟨more, after⟩, hmore, hms⟩ := map_eq_ok.1 h
              cases hms
              intro m hm
              rcases List.mem_cons.1 hm with rfl | hm
              · exact hv
              · exact ih hmore m hm
            · cases h
        · cases h
    · cases h

/-- The members of an object that is read are legible. -/
theorem Readable.members {ms : List (Text × Json)} (h : (Json.object ms).Readable) :
    ∀ m ∈ ms, m.2.Legible := by
  cases h with
  | empty => exact List.forall_mem_nil _
  | object members =>
    intro m hm
    obtain ⟨n, hn, hsame⟩ := mem_settle hm
    exact hsame ▸ legible_of_readMembers members n hn

theorem mem_of_lookup {ms : List (Text × Json)} {name : Text} {v : Json}
    (h : ms.lookup name = some v) : ∃ m ∈ ms, m.2 = v := by
  obtain ⟨l₁, l₂, rfl, -⟩ := List.lookup_eq_some_iff.1 h
  exact ⟨(name, v), List.mem_append_right _ List.mem_cons_self, rfl⟩

/-- What a name has in an object that was read is legible, as is the null of a missing name. -/
theorem legible_of_read {x : String} {data : Json} (h : Json.read x = .ok data) (key : String) :
    (data.getD key).Legible := by
  have hchars : readChars x.toList = .ok data := by
    rw [Json.read] at h
    cases hr : readChars x.toList with
    | error f => rw [hr] at h; cases h
    | ok v => rw [hr] at h; cases h; rfl
  rw [readChars.eq_def] at hchars
  split at hchars
  · cases hchars
  · split at hchars
    · cases hchars
    · rename_i v rest hvalue
      split at hchars
      · cases hchars
        rw [getD, get?.eq_def]
        split
        · rename_i ms
          cases hlookup : ms.lookup (Text.ofString key) with
          | none => exact Readable.null.legible
          | some v =>
            obtain ⟨m, hm, rfl⟩ := mem_of_lookup hlookup
            exact (readable_of_readValue hvalue).members m hm
        · exact Readable.null.legible
      · cases hchars

end Json

end Pressroom

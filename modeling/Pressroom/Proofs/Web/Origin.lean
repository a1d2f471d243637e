import Pressroom.Web.Origin

/-!
Addresses that cannot be compared. Scheme and host come first, so a number that is none stands in the
way only where these agree, while an authority that cannot be taken apart always does. An authority with
a name in brackets is such a one, since every address has a colon in it.
-/
namespace Pressroom

namespace Web

variable {cs front back : List Char}

theorem splitAt_of_not_mem {separator : Char} (h : separator ∉ cs) :
    splitAt separator cs = [cs] := by
  induction cs with
  | nil => rfl
  | cons c rest ih =>
    rw [List.mem_cons, not_or] at h
    rw [splitAt, if_neg (Ne.symm h.1), ih h.2]

namespace Host

theorem colon_of_cutDouble (h : cutDouble cs = some (front, back)) : ':' ∈ cs := by
  induction cs using cutDouble.induct generalizing front with
  | case1 => cases h
  | case2 rest => exact List.mem_cons_self
  | case3 c rest hother ih =>
    rw [cutDouble] at h
    · obtain ⟨⟨front', back'⟩, hrest, hpair⟩ := Option.map_eq_some_iff.1 h
      cases hpair
      exact List.mem_cons_of_mem _ (ih hrest)
    · exact hother

/-- Every address has a colon. -/
theorem colon_of_isAddress (h : isAddress cs = true) : ':' ∈ cs := by
  refine Decidable.byContradiction fun hcolon => ?_
  rw [isAddress] at h
  split at h
  · -- Without a colon there is one piece, which stands for two groups at most.
    rw [splitAt_of_not_mem hcolon, groupCount?] at h
    split at h
    · cases h
    · split at h <;> cases h
  · rename_i hcut
    exact hcolon (colon_of_cutDouble hcut)

/-- A name may not stand in brackets. -/
theorem mayBeBracketed_of_name (hcolon : ':' ∉ cs) (hmark : cs.head? ≠ some 'v') :
    mayBeBracketed cs = false := by
  have haddress : isAddress (cut '%' cs).1 = false := by
    rw [← Bool.not_eq_true]
    exact fun h => hcolon ((List.takeWhile_prefix _).subset (colon_of_isAddress h))
  rw [mayBeBracketed]
  · dsimp only
    rw [haddress]
    rfl
  · rintro rest rfl
    exact hmark rfl

end Host

namespace Origin

variable {o wanted : Origin} {address host : String}

/-- An authority with a name in its brackets cannot be taken apart. -/
theorem isReadable_of_bracketed_name {authority : List Char} (hopen : '[' ∈ authority)
    (hcolon : ':' ∉ bracketed authority) (hmark : (bracketed authority).head? ≠ some 'v') :
    isReadable authority = false := by
  rw [isReadable, Host.mayBeBracketed_of_name hcolon hmark, List.contains_iff_mem.2 hopen]
  simp

example : isReadable "[localhost]:443".toList = false := by decide

/-- The numbers stand in the way where everything in front of them is the same. -/
theorem compare_eq_broken_iff : o.compare wanted = .broken ↔
    o.scheme = wanted.scheme ∧ o.host = wanted.host ∧
      (o.hostNumber = .broken ∨ wanted.hostNumber = .broken) := by
  rw [compare]
  split
  · rename_i hother
    simp only [Bool.or_eq_true, bne_iff_ne] at hother
    refine ⟨nofun, fun ⟨hscheme, hhost, _⟩ => ?_⟩
    exact hother.elim (absurd hscheme) (absurd hhost)
  · rename_i hsame
    simp only [Bool.or_eq_true, bne_iff_ne, ne_eq, not_or, Decidable.not_not] at hsame
    obtain ⟨hscheme, hhost⟩ := hsame
    split
    · rename_i hnumber
      exact ⟨fun _ => ⟨hscheme, hhost, .inl hnumber⟩, fun _ => rfl⟩
    · rename_i hnumber _
      exact ⟨fun _ => ⟨hscheme, hhost, .inr hnumber⟩, fun _ => rfl⟩
    · rename_i hfirst hsecond
      refine ⟨fun h => ?_, fun ⟨_, _, h⟩ => (h.elim hfirst hsecond).elim⟩
      split at h <;> cases h

/-- An address cannot be compared with that of a host exactly if one of the two cannot be taken apart,
or if they differ in their numbers at most and one of these is none. -/
theorem compareSecure_eq_broken_iff : compareSecure address host = .broken ↔
    read? address = none ∨ read? ("https://" ++ host ++ "/") = none ∨
      ∃ o wanted, read? address = some o ∧ read? ("https://" ++ host ++ "/") = some wanted ∧
        o.scheme = wanted.scheme ∧ o.host = wanted.host ∧
          (o.hostNumber = .broken ∨ wanted.hostNumber = .broken) := by
  rw [compareSecure]
  cases read? address with
  | none => simp
  | some o =>
    cases read? ("https://" ++ host ++ "/") with
    | none => simp
    | some wanted => simp [compare_eq_broken_iff]

example : compareSecure "https://elsewhere:99999/" "localhost" = .different := by decide

end Origin

end Web

end Pressroom

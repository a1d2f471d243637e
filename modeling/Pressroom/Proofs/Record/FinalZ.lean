import Pressroom.Proofs.Record.RoundTrip
import Pressroom.Proofs.Time.FinalZ

/-!
What a final `Z` means in a record. A slot holds a stamp only if its field holds times and the member of
that name is a text which is read as the stamp, so what is true of texts that end in `Z` is true of
every time of a record that is decoded.
-/
namespace Pressroom

namespace Record

/-- A slot holds a stamp if its field holds times and the stamp was read from a text. -/
theorem decodes_stamp_iff {f : Field} {v : Json} {s : Stamp} : f.Decodes v (.stamp s) ↔
    f.kind = .stamp ∧ ∃ t, v = .text t ∧ Stamp.read t = .ok s := by
  constructor
  · intro h
    cases h with
    | stamp kind read => exact ⟨kind, _, rfl, read⟩
  · rintro ⟨kind, t, rfl, read⟩
    exact .stamp kind read

/-- So every stamp of a record was read from a text of the object. -/
theorem decode_stamp {kind : RecordKind} {data : Json} {r : Record} (h : decode kind data = .ok r)
    {f : Field} {s : Stamp} (hs : (f, .stamp s) ∈ r.entries) :
    ∃ t, data.getD f.key = .text t ∧ Stamp.read t = .ok s := by
  obtain ⟨-, rfl, hslots⟩ := decode_eq_ok_iff.1 h
  exact (decodes_stamp_iff.1 ((List.forall₂_iff_zip.1 hslots).2 hs)).2

/-- A text that ends in `Z` and is read as a time stands for one in UTC, but for two exceptions: it has
no offset exactly if there is nothing but a date before the `Z`, and it has another offset only if an
earlier one was cut off at U+0000. The same is true of every time of a record that is decoded, as each
was read from the text of its member. -/
theorem final_z_read (u : Text) :
    (∀ s, Stamp.read (u ++ [.char 'Z']) = .ok s →
      (s.offset = none ↔ Stamp.DateAlone u) ∧ ∀ o ∈ s.offset, o = 0 ∨ Point.char '\x00' ∈ u) ∧
    ∀ kind data r, decode kind data = .ok r → ∀ f s, (f, .stamp s) ∈ r.entries →
      ∃ t, data.getD f.key = .text t ∧ Stamp.read t = .ok s ∧
        (t = u ++ [.char 'Z'] →
          (s.offset = none ↔ Stamp.DateAlone u) ∧ ∀ o ∈ s.offset, o = 0 ∨ Point.char '\x00' ∈ u) := by
  refine ⟨fun s h => Stamp.read_zulu h, fun kind data r h f s hs => ?_⟩
  obtain ⟨t, htext, hread⟩ := decode_stamp h hs
  refine ⟨t, htext, hread, fun hu => Stamp.read_zulu ?_⟩
  rw [← hu]
  exact hread

/-- An earlier offset that ends at U+0000 is taken, and the one for `Z` is not looked at. -/
example : (Stamp.read (Text.ofString "2024-05-01T10:00-05:00:00.000000\x00Z")).toOption
    = some ⟨2024, 5, 1, 10, 0, 0, 0, some (-18000000000)⟩ := by decide +kernel

/-- Noon in UTC. -/
def noon : Stamp := ⟨2024, 5, 1, 12, 0, 0, 0, some 0⟩

/-- What stands before the `Z` in its text. -/
def noonText : Text := Text.ofString "2024-05-01T12:00:00"

/-- A key that was made at noon. -/
def noonKey : Json :=
  .object [(Text.ofString "ID", .text []), (Text.ofString "CreatedAt", .text (noonText ++ [.char 'Z']))]

/-- What is decoded of it. -/
def noonRecord : Record :=
  ⟨.apiKey, [.value (.text []), .stamp noon, .absent, .absent, .absent, .absent, .absent]⟩

theorem decode_noonKey (h : Stamp.read (noonText ++ [.char 'Z']) = .ok noon) :
    decode .apiKey noonKey = .ok noonRecord := by
  have hobject : noonKey.isObject = true := rfl
  have hcreated : decodeField (.optional "created_at" "CreatedAt" .stamp)
      (noonKey.getD (Field.optional "created_at" "CreatedAt" .stamp).key) = .ok (.stamp noon) :=
    (decodes_stamp_iff.2 ⟨rfl, _, rfl, h⟩).read
  have hfields : decodeFields noonKey RecordKind.apiKey.fields = .ok noonRecord.slots := by
    rw [RecordKind.fields, decodeFields, decodeFields, hcreated]
    rfl
  rw [decode, if_pos hobject, hfields]
  rfl

/-- Its time is decoded as noon in UTC. -/
theorem final_z_read_noon :
    Stamp.read (noonText ++ [.char 'Z']) = .ok noon ∧
      (noon.offset = none ↔ Stamp.DateAlone noonText) ∧
      decode .apiKey noonKey = .ok noonRecord ∧
      (Field.optional "created_at" "CreatedAt" .stamp, .stamp noon) ∈ noonRecord.entries ∧
      ∃ t, noonKey.getD "CreatedAt" = .text t ∧ Stamp.read t = .ok noon := by
  obtain ⟨htexts, hrecords⟩ := final_z_read noonText
  have hread : Stamp.read (noonText ++ [.char 'Z']) = .ok noon :=
    toOption_eq_some.1 (by decide +kernel)
  have hdecode := decode_noonKey hread
  have hentry : (Field.optional "created_at" "CreatedAt" .stamp, .stamp noon) ∈ noonRecord.entries :=
    List.mem_cons_of_mem _ List.mem_cons_self
  obtain ⟨t, htext, htime, -⟩ := hrecords .apiKey noonKey noonRecord hdecode _ _ hentry
  exact ⟨hread, (htexts noon hread).1, hdecode, hentry, t, htext, htime⟩

/-- A date alone with a `Z` behind it is read as its midnight without an offset. -/
theorem date_with_z_naive :
    Stamp.read (Text.ofString "2024-05-01Z") = .ok ⟨2024, 5, 1, 0, 0, 0, 0, none⟩ := by rfl

end Record

end Pressroom

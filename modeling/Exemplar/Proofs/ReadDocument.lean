import Exemplar.Json.Parser
import Exemplar.Proofs.Document
import Mathlib.Data.List.Induction

namespace Exemplar.Json

/-- A repeated key is inserted at its first place, so the keys stay distinct. -/
theorem keys_insertMember (key : String) (value : Json) (members : List (String × Json)) :
    keys (insertMember key value members) =
      if key ∈ keys members then keys members else keys members ++ [key] := by
  induction members with
  | nil => rfl
  | cons first rest inductionHypothesis =>
      unfold insertMember
      by_cases same : first.1 = key
      · subst key
        simp [keys]
      · rw [if_neg same]
        simp only [keys, List.map_cons, List.mem_cons] at inductionHypothesis ⊢
        rw [inductionHypothesis]
        by_cases present : key ∈ rest.map Prod.fst <;> simp [present, Ne.symm same]

/-- The values of an object with a member inserted are the old ones and the new one. -/
theorem forall_mem_insertMember {property : Json → Prop} {key : String} {value : Json}
    {members : List (String × Json)} (each : ∀ member ∈ members, property member.2)
    (inserted : property value) :
    ∀ member ∈ insertMember key value members, property member.2 := by
  induction members with
  | nil => simpa [insertMember] using inserted
  | cons first rest inductionHypothesis =>
      obtain ⟨head, tail⟩ := List.forall_mem_cons.mp each
      unfold insertMember
      split
      · exact List.forall_mem_cons.mpr ⟨inserted, tail⟩
      · exact List.forall_mem_cons.mpr ⟨head, inductionHypothesis tail⟩

/-- Inserting a member keeps an object well-formed. -/
theorem WellFormed.insertMember {members : List (String × Json)} {value : Json}
    (wellFormed : (Json.object members).WellFormed) (key : String) (inserted : value.WellFormed) :
    (Json.object (insertMember key value members)).WellFormed := by
  cases wellFormed with
  | object distinct each =>
      refine .object ?_ (forall_mem_insertMember each inserted)
      rw [keys_insertMember]
      split
      · exact distinct
      · next fresh =>
          rw [List.nodup_append]
          refine ⟨distinct, List.nodup_singleton key, ?_⟩
          intro known present new isNew same
          rw [List.mem_singleton.mp isNew] at same
          exact fresh (same ▸ present)

/-- An object read from members with well-formed values is well-formed. -/
theorem wellFormed_ofMembers {members : List (String × Json)}
    (each : ∀ member ∈ members, member.2.WellFormed) : (ofMembers members).WellFormed := by
  unfold ofMembers
  induction members using List.reverseRecOn with
  | nil => exact .object List.nodup_nil (by simp)
  | append_singleton members last inductionHypothesis =>
      rw [List.foldl_append]
      have earlier := inductionHypothesis fun member present =>
        each member (List.mem_append_left _ present)
      exact earlier.insertMember last.1 (each last (List.mem_append_right _ List.mem_cons_self))

/-- A number is an integer or a float. -/
theorem wellFormed_numberValue {negative : Bool} {whole fraction : List Char}
    {exponent : Option Int} {value : Json}
    (read : numberValue negative whole fraction exponent = .ok value) : value.WellFormed := by
  unfold numberValue at read
  split at read
  · split at read
    · cases read
    · obtain rfl := Except.ok.inj read
      exact .integer _
  · obtain rfl := Except.ok.inj read
    exact .float _

/-- A number holds no objects. -/
theorem wellFormed_unsignedNumber? {negative : Bool} {text rest : List Char} {value : Json}
    (found : unsignedNumber? negative text = some (.ok value, rest)) : value.WellFormed := by
  simp only [unsignedNumber?, Option.bind_eq_bind, Option.bind_eq_some_iff] at found
  obtain ⟨⟨whole, afterWhole⟩, _, found⟩ := found
  simp only [Option.some.injEq, Prod.mk.injEq] at found
  exact wellFormed_numberValue found.1

/-- A number with its sign holds no objects. -/
theorem wellFormed_number? {text rest : List Char} {value : Json}
    (found : number? text = some (.ok value, rest)) : value.WellFormed := by
  unfold number? at found
  split at found
  · exact wellFormed_unsignedNumber? found
  · exact wellFormed_unsignedNumber? found

/-- A scalar holds no objects. -/
theorem wellFormed_scalar {text : List Char} {scanned : Scanned Json text}
    (read : scalar text = .ok scanned) : scanned.value.WellFormed := by
  unfold scalar at read
  split at read
  · next word value found =>
      split at read
      · obtain rfl := Except.ok.inj read
        have isWord : (word, value) ∈ words := List.mem_of_find?_eq_some found
        simp only [words, List.mem_cons, Prod.mk.injEq, List.not_mem_nil, or_false] at isWord
        rcases isWord with ⟨_, rfl⟩ | ⟨_, rfl⟩ | ⟨_, rfl⟩ | ⟨_, rfl⟩ | ⟨_, rfl⟩ | ⟨_, rfl⟩
        · exact .null
        · exact .boolean _
        · exact .boolean _
        · exact .float _
        · exact .float _
        · exact .float _
      · cases read
  · split at read
    · next value rest found =>
      obtain rfl := Except.ok.inj read
      exact wellFormed_number? found
    · cases read
    · cases read

/-- A reader that goes on after another one succeeds only when both do. -/
theorem ok_of_bind_eq_ok {ε α β : Type} {reader : Except ε α} {next : α → Except ε β} {result : β}
    (read : reader >>= next = .ok result) :
    ∃ found, reader = .ok found ∧ next found = .ok result := by
  cases reader with
  | error => cases read
  | ok found => exact ⟨found, rfl, read⟩

/-- Every value is read as a well-formed value, and so are the values of members and items. -/
theorem wellFormed_read :
    (∀ text, ∀ scanned, value text = .ok scanned → scanned.value.WellFormed) ∧
      (∀ text, ∀ scanned, members text = .ok scanned →
        ∀ member ∈ scanned.value, member.2.WellFormed) ∧
      ∀ text, ∀ scanned, items text = .ok scanned → ∀ item ∈ scanned.value, item.WellFormed := by
  refine value.mutual_induct _ _ _ ?quoted ?emptyArray ?array ?emptyObject ?object ?scalar
    ?member ?noMember ?item
  case quoted =>
      intro rest scanned read
      rw [value] at read
      obtain ⟨content, _, read⟩ := ok_of_bind_eq_ok read
      obtain rfl := Except.ok.inj read
      exact .string _
  case emptyArray =>
      intro rest _ after atItem scanned read
      simp only [value] at read
      split at read
      · obtain rfl := Except.ok.inj read
        exact .array (by simp)
      · next other => exact absurd atItem (other after)
  case array =>
      intro rest _ notEmpty eachItem scanned read
      simp only [value] at read
      obtain ⟨tail, readTail, read⟩ := ok_of_bind_eq_ok read
      obtain rfl := Except.ok.inj read
      exact .array (eachItem tail readTail)
  case emptyObject =>
      intro rest _ after atKey scanned read
      simp only [value] at read
      split at read
      · obtain rfl := Except.ok.inj read
        exact .object List.nodup_nil (by simp)
      · next other => exact absurd atKey (other after)
  case object =>
      intro rest _ notEmpty eachMember scanned read
      simp only [value] at read
      obtain ⟨tail, readTail, read⟩ := ok_of_bind_eq_ok read
      obtain rfl := Except.ok.inj read
      exact wellFormed_ofMembers (eachMember tail readTail)
  case scalar =>
      intro text notString notArray notObject scanned read
      rw [value.eq_def] at read
      split at read
      · exact absurd rfl (notString _)
      · exact absurd rfl (notArray _)
      · exact absurd rfl (notObject _)
      · exact wellFormed_scalar read
  case member =>
      intro rest firstFormed laterFormed scanned read
      rw [members] at read
      obtain ⟨key, _, read⟩ := ok_of_bind_eq_ok read
      dsimp only at read
      split at read
      · next afterColon atColon =>
        obtain ⟨first, readFirst, read⟩ := ok_of_bind_eq_ok read
        have formed := firstFormed key afterColon atColon first readFirst
        split at read
        · obtain rfl := Except.ok.inj read
          simpa using formed
        · next after atMark =>
          obtain ⟨tail, readTail, read⟩ := ok_of_bind_eq_ok read
          obtain rfl := Except.ok.inj read
          exact List.forall_mem_cons.mpr
            ⟨formed, laterFormed key afterColon atColon first after atMark tail readTail⟩
        · cases read
      · cases read
  case noMember =>
      intro text notString scanned read
      rw [members.eq_def] at read
      split at read
      · exact absurd rfl (notString _)
      · cases read
  case item =>
      intro text firstFormed laterFormed scanned read
      rw [items] at read
      obtain ⟨first, readFirst, read⟩ := ok_of_bind_eq_ok read
      have formed := firstFormed first readFirst
      dsimp only at read
      split at read
      · obtain rfl := Except.ok.inj read
        simpa using formed
      · next after atMark =>
        obtain ⟨tail, readTail, read⟩ := ok_of_bind_eq_ok read
        obtain rfl := Except.ok.inj read
        exact List.forall_mem_cons.mpr ⟨formed, laterFormed first after atMark tail readTail⟩
      · cases read

/-- A text that holds one value and blanks around it is read as a well-formed value. -/
theorem wellFormed_of_document {text : List Char} {read : Json} (found : document text = .ok read) :
    read.WellFormed := by
  unfold document at found
  split at found
  · cases found
  · obtain ⟨content, readContent, found⟩ := ok_of_bind_eq_ok found
    split at found
    · obtain rfl := Except.ok.inj found
      exact wellFormed_read.1 _ _ readContent
    · cases found

/-- Every document that is read from a text is well-formed. -/
theorem wellFormed_of_parse {text : String} {read : Json} (parsed : parse text = .ok read) :
    read.WellFormed := by
  unfold parse at parsed
  cases found : document text.toList with
  | error fault =>
      rw [found] at parsed
      cases parsed
  | ok content =>
      rw [found] at parsed
      obtain rfl := Except.ok.inj parsed
      exact wellFormed_of_document found

end Exemplar.Json

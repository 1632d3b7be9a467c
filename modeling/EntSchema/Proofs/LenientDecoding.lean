import EntSchema.Proofs.DecodingExactness

/-!
# Strict and lenient decoding agree

A document is decoded by one of two decoders: the strict one, which wants to be told what the
entities are, and the lenient one, for which everything may be left out.  They are written apart, so
nothing but this module says that they read the same documents.

Both are first described by what they accept: the strict one by `EncodesDocument`, the lenient one
by `EncodesLenientDocument` (`exact_decodeLenient`).  The two grammars differ in one member, the
entities, which one of them needs and the other supplies when they are missing; and a value supplies
them itself exactly when it `ProvidesEntities`.  The main result,
`strict_decoding_is_lenient_decoding`, says what this comes to for the decoders.
-/

namespace EntSchema.Model

open Json (Value member?)

/-! ## Documents that may leave out everything -/

/-- A document that may leave out its enums and its entities. -/
structure LenientDocumentParts (part : Parts) (document : Document) : Prop where
  enums : Defaulted (EncodesList EncodesEnum) [] (part "enums" 0) document.enums
  entities : Defaulted (EncodesList EncodesEntity) [] (part "models" 1) document.entities

def EncodesLenientDocument : Encoding Document := EncodesRecord 2 LenientDocumentParts

/-- A value says itself what its entities are, whatever it says: as an object under their key, or
as a list that is long enough to reach them and has nothing behind them. -/
inductive ProvidesEntities : Value → Prop
  | object {members : List (String × Value)}
    (hmember : (member? members "models").isSome = true) : ProvidesEntities (.object members)
  | list {items : List Value} (hlength : items.length = 2) : ProvidesEntities (.array items)

/-- Whether a value is an object with the key of a data model. -/
def HasDatamodelKey : Value → Prop
  | .object members => (member? members "datamodel").isSome = true
  | _ => False

lemma datamodelOf_of_not_hasKey {value : Value} (h : ¬ HasDatamodelKey value) :
    datamodelOf value = value := by
  cases value with
  | object members =>
    have hnone : member? members "datamodel" = none := by
      simpa [HasDatamodelKey] using h
    simp [datamodelOf, hnone]
  | _ => rfl

/-! ## What the lenient decoder accepts -/

lemma exact_decodeLenient : Exact Document.decodeLenient EncodesLenientDocument := by
  have henums := exact_decodeList exact_decodeEnum
  have hentities := exact_decodeList exact_decodeEntity
  refine exact_decodeRecord (fun members document => ?_) fun items document => ?_
  · simp only [bind_eq_ok_iff, ofMember_eq_ok_iff henums, ofMember_eq_ok_iff hentities,
      pure, Except.pure, Except.ok.injEq]
    constructor
    · rintro ⟨enums?, henums, entities?, hentities, rfl⟩
      exact ⟨defaulted_iff.2 ⟨enums?, henums, rfl⟩, defaulted_iff.2 ⟨entities?, hentities, rfl⟩⟩
    · rintro ⟨henums, hentities⟩
      obtain ⟨enums?, henums, henumsEq⟩ := defaulted_iff.1 henums
      obtain ⟨entities?, hentities, hentitiesEq⟩ := defaulted_iff.1 hentities
      exact ⟨enums?, henums, entities?, hentities, by rw [henumsEq, hentitiesEq]⟩
  · simp only [bind_eq_ok_iff, ofItem_eq_ok_iff henums, ofItem_eq_ok_iff hentities,
      pure, Except.pure, Except.ok.injEq]
    constructor
    · rintro ⟨enums?, henums, entities?, hentities, rfl⟩
      exact ⟨defaulted_iff.2 ⟨enums?, henums, rfl⟩, defaulted_iff.2 ⟨entities?, hentities, rfl⟩⟩
    · rintro ⟨henums, hentities⟩
      obtain ⟨enums?, henums, henumsEq⟩ := defaulted_iff.1 henums
      obtain ⟨entities?, hentities, hentitiesEq⟩ := defaulted_iff.1 hentities
      exact ⟨enums?, henums, entities?, hentities, by rw [henumsEq, hentitiesEq]⟩

/-! ## The two grammars -/

section Member

variable {α : Type} {Encodes : Encoding α} {default a : α} {part : Option Value}

/-- To need a member is to take it where it may be left out, but to insist that it is there. -/
lemma needed_iff_defaulted :
    Needed Encodes part a ↔ Defaulted Encodes default part a ∧ part.isSome = true := by
  constructor
  · rintro ⟨hvalue⟩
    exact ⟨.given hvalue, rfl⟩
  · rintro ⟨hnone | hvalue, hsome⟩
    · exact absurd hsome (by simp)
    · exact .given hvalue

lemma Defaulted.eq_of_isNone (h : Defaulted Encodes default part a) (hnone : part.isSome = false) :
    a = default := by
  cases h with
  | absent => rfl
  | given hvalue => exact absurd hnone (by simp)

end Member

variable {part : Parts} {document : Document} {value : Value}

lemma documentParts_iff :
    DocumentParts part document ↔
      LenientDocumentParts part document ∧ (part "models" 1).isSome = true := by
  constructor
  · rintro ⟨henums, hentities⟩
    obtain ⟨hdefaulted, hsome⟩ := needed_iff_defaulted.1 hentities
    exact ⟨⟨henums, hdefaulted⟩, hsome⟩
  · rintro ⟨⟨henums, hdefaulted⟩, hsome⟩
    exact ⟨henums, needed_iff_defaulted.2 ⟨hdefaulted, hsome⟩⟩

/-- Of lists short enough for a document, those of two items provide the entities. -/
lemma length_eq_two_iff {items : List Value} (hsize : items.length ≤ 2) :
    items.length = 2 ↔ (items[1]?).isSome = true := by
  rw [Option.isSome_iff_ne_none, ne_eq, List.getElem?_eq_none_iff]
  omega

/-- The strict grammar is the lenient one on the values that provide their entities. -/
lemma encodesDocument_iff :
    EncodesDocument value document ↔
      EncodesLenientDocument value document ∧ ProvidesEntities value := by
  constructor
  · rintro (hparts | ⟨hsize, hparts⟩)
    · obtain ⟨hlenient, hsome⟩ := documentParts_iff.1 hparts
      exact ⟨.object hlenient, .object hsome⟩
    · obtain ⟨hlenient, hsome⟩ := documentParts_iff.1 hparts
      exact ⟨.list hsize hlenient, .list ((length_eq_two_iff hsize).2 hsome)⟩
  · rintro ⟨hlenient | ⟨hsize, hlenient⟩, hprovides⟩
    · cases hprovides with
      | object hsome => exact .object (documentParts_iff.2 ⟨hlenient, hsome⟩)
    · cases hprovides with
      | list hlength =>
        have hsome := (length_eq_two_iff hsize).1 hlength
        exact .list hsize (documentParts_iff.2 ⟨hlenient, hsome⟩)

/-- A document of a value that does not provide its entities has none. -/
lemma EncodesLenientDocument.entities_eq_nil (h : EncodesLenientDocument value document)
    (hprovides : ¬ ProvidesEntities value) : document.entities = [] := by
  obtain hparts | ⟨hsize, hparts⟩ := h
  · refine hparts.entities.eq_of_isNone (Bool.eq_false_iff.2 fun hsome => ?_)
    exact hprovides (.object hsome)
  · refine hparts.entities.eq_of_isNone (Bool.eq_false_iff.2 fun hsome => ?_)
    exact hprovides (.list ((length_eq_two_iff hsize).2 hsome))

/-! ## The two decoders -/

/-- **Strict decoding is lenient decoding of values that provide their entities.**  On every value
without a data model inside, the strict decoder accepts what the lenient one accepts and what
provides its entities; when both accept they give one document; and what only the lenient one
accepts has no entities.  So a text with entities means the same to both. -/
theorem strict_decoding_is_lenient_decoding (hbare : ¬ HasDatamodelKey value) :
    ((∃ document, Document.decode (datamodelOf value) = .ok document) ↔
      (∃ document, Document.decodeLenient value = .ok document) ∧ ProvidesEntities value) ∧
    (∀ strict lenient, Document.decode (datamodelOf value) = .ok strict →
      Document.decodeLenient value = .ok lenient → strict = lenient) ∧
    (∀ lenient fault, Document.decode (datamodelOf value) = .error fault →
      Document.decodeLenient value = .ok lenient →
        ¬ ProvidesEntities value ∧ lenient.entities = []) ∧
    ∀ text, Json.parse text = .ok value → ∀ document, Document.parse text = .ok document ↔
      Document.decodeLenient value = .ok document ∧ ProvidesEntities value := by
  have hsame (document : Document) : Document.decode (datamodelOf value) = .ok document ↔
      Document.decodeLenient value = .ok document ∧ ProvidesEntities value := by
    rw [datamodelOf_of_not_hasKey hbare, exact_decode value document,
      exact_decodeLenient value document]
    exact encodesDocument_iff
  refine ⟨?_, ?_, ?_, ?_⟩
  · simp only [hsame, exists_and_right]
  · intro strict lenient hstrict hlenient
    have hdocument := ((hsame strict).1 hstrict).1
    rw [hdocument] at hlenient
    exact Except.ok.inj hlenient
  · intro lenient fault hstrict hlenient
    have hprovides : ¬ ProvidesEntities value := by
      intro hprovides
      have haccepted := (hsame lenient).2 ⟨hlenient, hprovides⟩
      rw [hstrict] at haccepted
      cases haccepted
    have hencodes := (exact_decodeLenient value lenient).1 hlenient
    exact ⟨hprovides, hencodes.entities_eq_nil hprovides⟩
  · intro text hparse document
    rw [Document.parse, parseJson, hparse]
    exact mapError_eq_ok_iff.trans (hsame document)

/-- A list that stops in front of the entities is for the lenient decoder alone; one that goes on to
them is for both. -/
theorem shortList_is_lenient_only :
    ¬ HasDatamodelKey (.array [.array []]) ∧
    Document.decodeLenient (.array [.array []]) = .ok ⟨[], []⟩ ∧
    (∀ document, Document.decode (.array [.array []]) ≠ .ok document) ∧
    ¬ HasDatamodelKey (.array [.array [], .array [.array [.string "User"]]]) ∧
    Document.decode (.array [.array [], .array [.array [.string "User"]]]) =
      .ok ⟨[], [⟨"User", []⟩]⟩ := by
  have hshort : ¬ HasDatamodelKey (.array [.array []]) := id
  have hlong : ¬ HasDatamodelKey (.array [.array [], .array [.array [.string "User"]]]) := id
  refine ⟨hshort, rfl, ?_, hlong, ?_⟩
  · intro document hstrict
    have hprovides :=
      ((strict_decoding_is_lenient_decoding hshort).1.1 ⟨document, hstrict⟩).2
    cases hprovides with
    | list hlength => exact absurd hlength (by decide)
  · obtain ⟨document, hstrict⟩ :=
      (strict_decoding_is_lenient_decoding hlong).1.2 ⟨⟨_, rfl⟩, .list rfl⟩
    have hdocument := (strict_decoding_is_lenient_decoding hlong).2.1 _ _ hstrict rfl
    rw [hdocument] at hstrict
    exact hstrict

end EntSchema.Model

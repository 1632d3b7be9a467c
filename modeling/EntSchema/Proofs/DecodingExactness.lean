import EntSchema.Model.Decoding
import EntSchema.Proofs.DocumentGrammar
import EntSchema.Proofs.Traversal

/-!
# Decoding accepts exactly the encodings

A decoder is `Exact` for a relation when it gives a thing for a value exactly if the value encodes
the thing.  Decoders are made from decoders, and each way of making them keeps exactness: lists
(`exact_decodeList`), the members of an object or of a list, and records in either shape
(`exact_decodeRecord`).  The main result, `decode_eq_ok_iff_encodes`, is what this comes to for
documents.
-/

namespace EntSchema.Model

open Json (Value member?)

variable {α : Type}

/-- A decoder gives the things that values encode, and nothing for a value that encodes nothing. -/
def Exact (decode : Decoder α) (Encodes : Encoding α) : Prop :=
  ∀ value a, decode value = .ok a ↔ Encodes value a

/-! ## Plain values -/

lemma exact_decodeText : Exact decodeText EncodesText := by
  intro value text
  constructor
  · intro h
    cases value with
    | string value => cases h; exact .text text
    | _ => cases h
  · rintro ⟨⟩
    rfl

lemma exact_decodeBool : Exact decodeBool EncodesBool := by
  intro value b
  constructor
  · intro h
    cases value with
    | bool value => cases h; exact .bool b
    | _ => cases h
  · rintro ⟨⟩
    rfl

lemma exact_decodeDefault : Exact decodeDefault EncodesDefault := by
  intro value default?
  constructor
  · intro h
    cases value with
    | null => cases h; exact .null
    | bool value => cases h; exact .bool value
    | number value => cases h; exact .number value
    | string value => cases h; exact .string value
    | array items => cases h; exact .array items
    | object members => cases h; exact .object members
  · rintro ⟨⟩ <;> rfl

/-! ## Kinds -/

lemma decodeKindName_eq_ok_iff {name : String} {kind : Kind} :
    decodeKindName name = .ok kind ↔ KindNamed name kind := by
  constructor
  · intro h
    unfold decodeKindName Kind.ofName? at h
    split at h
    · rename_i hname
      split at hname <;> cases hname <;> cases h <;> constructor
    · cases h
  · rintro ⟨⟩ <;> rfl

lemma exact_decodeKind : Exact decodeKind EncodesKind := by
  intro value kind
  constructor
  · intro h
    unfold decodeKind at h
    split at h
    · exact .name (decodeKindName_eq_ok_iff.1 h)
    · rename_i name value
      obtain ⟨named, hname, hvalue⟩ := bind_eq_ok_iff.1 h
      cases value with
      | null =>
        cases hvalue
        exact .object (decodeKindName_eq_ok_iff.1 hname)
      | _ => cases hvalue
    · cases h
    · cases h
  · rintro (hname | hname)
    · exact decodeKindName_eq_ok_iff.2 hname
    · exact bind_eq_ok_iff.2 ⟨kind, decodeKindName_eq_ok_iff.2 hname, rfl⟩

/-! ## Lists, options and members -/

section Parts

variable {decode : Decoder α} {Encodes : Encoding α} (exact : Exact decode Encodes)

include exact

lemma exact_decodeList : Exact (decodeList decode) (EncodesList Encodes) := by
  intro value values
  have hrel : (fun item a => decode item = .ok a) = Encodes := by
    funext item a
    exact propext (exact item a)
  have hitems (items : List Value) :
      items.mapM decode = .ok values ↔ List.Forall₂ Encodes items values := by
    rw [mapM_eq_ok_iff, hrel]
  constructor
  · intro h
    cases value with
    | array items => exact .list ((hitems items).1 h)
    | _ => cases h
  · rintro ⟨h⟩
    exact (hitems _).2 h

lemma mapM_decode_eq_ok_iff {part : Option Value} {a? : Option α} :
    part.mapM decode = .ok a? ↔ Option.Rel Encodes part a? := by
  cases part with
  | none =>
    constructor
    · rintro ⟨⟩
      exact .none
    · rintro ⟨⟩
      rfl
  | some value =>
    rw [Option.mapM_some, map_eq_pure_bind, bind_pure_eq_ok_iff]
    constructor
    · rintro ⟨a, ha, rfl⟩
      exact .some ((exact value a).1 ha)
    · rintro ⟨ha⟩
      exact ⟨_, (exact value _).2 ha, rfl⟩

lemma ofMember_eq_ok_iff {members : List (String × Value)} {key : String} {a? : Option α} :
    ofMember members key decode = .ok a? ↔ Option.Rel Encodes (member? members key) a? :=
  mapM_decode_eq_ok_iff exact

lemma ofItem_eq_ok_iff {items : List Value} {place : Nat} {a? : Option α} :
    ofItem items place decode = .ok a? ↔ Option.Rel Encodes items[place]? a? :=
  mapM_decode_eq_ok_iff exact

lemma needItem_eq_ok_iff {shape : Shape} {items : List Value} {place : Nat} {a : α} :
    needItem shape items place decode = .ok a ↔ Needed Encodes items[place]? a := by
  unfold needItem
  cases items[place]? with
  | none =>
    constructor
    · rintro ⟨⟩
    · rintro ⟨⟩
  | some value =>
    constructor
    · intro h
      exact .given ((exact value a).1 h)
    · rintro ⟨h⟩
      exact (exact value a).2 h

end Parts

lemma need_eq_ok_iff {key : String} {a? : Option α} {a : α} :
    need key a? = .ok a ↔ a? = some a := by
  cases a? <;> simp [need]

lemma needed_iff {Encodes : Encoding α} {part : Option Value} {a : α} :
    Needed Encodes part a ↔ Option.Rel Encodes part (some a) := by
  constructor
  · rintro ⟨h⟩
    exact .some h
  · rintro ⟨h⟩
    exact .given h

lemma defaulted_iff {Encodes : Encoding α} {default : α} {part : Option Value} {a : α} :
    Defaulted Encodes default part a ↔
      ∃ a?, Option.Rel Encodes part a? ∧ a?.getD default = a := by
  constructor
  · rintro (_ | h)
    · exact ⟨none, .none, rfl⟩
    · exact ⟨some a, .some h, rfl⟩
  · rintro ⟨_, h | _, rfl⟩
    · exact .given h
    · exact .absent

lemma exact_decodeKeyFields : Exact decodeKeyFields EncodesKeyFields := by
  intro value names?
  have hlist := exact_decodeList exact_decodeText value
  unfold decodeKeyFields decodeOption
  split
  · constructor
    · rintro ⟨⟩
      exact .null
    · rintro (_ | hnames)
      · rfl
      · cases hnames
  · rename_i hnull
    rw [map_eq_pure_bind, bind_pure_eq_ok_iff]
    constructor
    · rintro ⟨names, hnames, rfl⟩
      exact .list ((hlist names).1 hnames)
    · rintro (_ | hnames)
      · exact absurd rfl hnull
      · exact ⟨_, (hlist _).2 hnames, rfl⟩

/-! ## Records -/

/-- A record is decoded exactly when its members are, in either shape. -/
lemma exact_decodeRecord {shape : Shape}
    {ofMembers : List (String × Value) → Except ShapeError α}
    {ofItems : List Value → Except ShapeError α} {Has : Parts → α → Prop}
    (hmembers : ∀ members a,
      ofMembers members = .ok a ↔ Has (fun key _ => member? members key) a)
    (hitems : ∀ items a, ofItems items = .ok a ↔ Has (fun _ place => items[place]?) a) :
    Exact (decodeRecord shape ofMembers ofItems) (EncodesRecord shape.size Has) := by
  intro value a
  have hlist (items : List Value) :
      decodeRecord shape ofMembers ofItems (.array items) = .ok a ↔
        items.length ≤ shape.size ∧ ofItems items = .ok a := by
    simp only [decodeRecord, endItems, bind_eq_ok_iff]
    by_cases hsize : shape.size < items.length
    · simp [hsize, Nat.not_le.2 hsize]
    · simp [hsize, pure, Except.pure, Nat.not_lt.1 hsize]
  constructor
  · intro h
    cases value with
    | object members => exact .object ((hmembers members a).1 h)
    | array items =>
      obtain ⟨hsize, hdecoded⟩ := (hlist items).1 h
      exact .list hsize ((hitems items a).1 hdecoded)
    | _ => cases h
  · rintro (hparts | ⟨hsize, hparts⟩)
    · exact (hmembers _ a).2 hparts
    · exact (hlist _).2 ⟨hsize, (hitems _ a).2 hparts⟩

lemma exact_decodeEnumValue : Exact decodeEnumValue EncodesEnumValue := by
  refine exact_decodeRecord (fun members name => ?_) fun items name => ?_
  · simp only [bind_eq_ok_iff, ofMember_eq_ok_iff exact_decodeText, need_eq_ok_iff]
    constructor
    · rintro ⟨name?, hname, rfl⟩
      exact ⟨needed_iff.2 hname⟩
    · rintro ⟨hname⟩
      exact ⟨some name, needed_iff.1 hname, rfl⟩
  · rw [needItem_eq_ok_iff exact_decodeText]
    exact ⟨fun hname => ⟨hname⟩, fun hparts => hparts.name⟩

lemma exact_decodeEnum : Exact decodeEnum EncodesEnum := by
  have hvalues := exact_decodeList exact_decodeEnumValue
  refine exact_decodeRecord (fun members definition => ?_) fun items definition => ?_
  · simp only [bind_eq_ok_iff, ofMember_eq_ok_iff exact_decodeText, ofMember_eq_ok_iff hvalues,
      need_eq_ok_iff, pure, Except.pure, Except.ok.injEq]
    constructor
    · rintro ⟨name?, hname, values?, hvalues, name, rfl, rfl⟩
      exact ⟨needed_iff.2 hname, defaulted_iff.2 ⟨values?, hvalues, rfl⟩⟩
    · rintro ⟨hname, hvalues⟩
      obtain ⟨values?, hvalues, heq⟩ := defaulted_iff.1 hvalues
      exact ⟨_, needed_iff.1 hname, values?, hvalues, _, rfl, by rw [heq]⟩
  · simp only [bind_eq_ok_iff, needItem_eq_ok_iff exact_decodeText, ofItem_eq_ok_iff hvalues,
      pure, Except.pure, Except.ok.injEq]
    constructor
    · rintro ⟨name, hname, values?, hvalues, rfl⟩
      exact ⟨hname, defaulted_iff.2 ⟨values?, hvalues, rfl⟩⟩
    · rintro ⟨hname, hvalues⟩
      obtain ⟨values?, hvalues, heq⟩ := defaulted_iff.1 hvalues
      exact ⟨_, hname, values?, hvalues, by rw [heq]⟩

lemma exact_decodeField : Exact decodeField EncodesField := by
  refine exact_decodeRecord (fun members field => ?_) fun items field => ?_
  · simp only [bind_eq_ok_iff, ofMember_eq_ok_iff exact_decodeText,
      ofMember_eq_ok_iff exact_decodeKind, ofMember_eq_ok_iff exact_decodeBool,
      ofMember_eq_ok_iff exact_decodeDefault, ofMember_eq_ok_iff exact_decodeKeyFields,
      need_eq_ok_iff, pure, Except.pure, Except.ok.injEq]
    constructor
    · rintro ⟨default?, hdefault, isRequired?, hrequired, kind?, hkind, name?, hname, keyFields?,
        hkeys, type?, htype, name, rfl, kind, rfl, type, rfl, rfl⟩
      exact ⟨needed_iff.2 hname, needed_iff.2 hkind, needed_iff.2 htype,
        defaulted_iff.2 ⟨isRequired?, hrequired, rfl⟩, defaulted_iff.2 ⟨default?, hdefault, rfl⟩,
        defaulted_iff.2 ⟨keyFields?, hkeys, rfl⟩⟩
    · rintro ⟨hname, hkind, htype, hrequired, hdefault, hkeys⟩
      obtain ⟨isRequired?, hrequired, hrequiredEq⟩ := defaulted_iff.1 hrequired
      obtain ⟨default?, hdefault, hdefaultEq⟩ := defaulted_iff.1 hdefault
      obtain ⟨keyFields?, hkeys, hkeysEq⟩ := defaulted_iff.1 hkeys
      refine ⟨default?, hdefault, isRequired?, hrequired, _, needed_iff.1 hkind, _,
        needed_iff.1 hname, keyFields?, hkeys, _, needed_iff.1 htype, _, rfl, _, rfl, _, rfl, ?_⟩
      rw [hrequiredEq, hdefaultEq, hkeysEq]
  · simp only [bind_eq_ok_iff, needItem_eq_ok_iff exact_decodeText,
      needItem_eq_ok_iff exact_decodeKind, ofItem_eq_ok_iff exact_decodeBool,
      ofItem_eq_ok_iff exact_decodeDefault, ofItem_eq_ok_iff exact_decodeKeyFields,
      pure, Except.pure, Except.ok.injEq]
    constructor
    · rintro ⟨name, hname, kind, hkind, type, htype, isRequired?, hrequired, default?, hdefault,
        keyFields?, hkeys, rfl⟩
      exact ⟨hname, hkind, htype, defaulted_iff.2 ⟨isRequired?, hrequired, rfl⟩,
        defaulted_iff.2 ⟨default?, hdefault, rfl⟩, defaulted_iff.2 ⟨keyFields?, hkeys, rfl⟩⟩
    · rintro ⟨hname, hkind, htype, hrequired, hdefault, hkeys⟩
      obtain ⟨isRequired?, hrequired, hrequiredEq⟩ := defaulted_iff.1 hrequired
      obtain ⟨default?, hdefault, hdefaultEq⟩ := defaulted_iff.1 hdefault
      obtain ⟨keyFields?, hkeys, hkeysEq⟩ := defaulted_iff.1 hkeys
      refine ⟨_, hname, _, hkind, _, htype, isRequired?, hrequired, default?, hdefault,
        keyFields?, hkeys, ?_⟩
      rw [hrequiredEq, hdefaultEq, hkeysEq]

lemma exact_decodeEntity : Exact decodeEntity EncodesEntity := by
  have hfields := exact_decodeList exact_decodeField
  refine exact_decodeRecord (fun members entity => ?_) fun items entity => ?_
  · simp only [bind_eq_ok_iff, ofMember_eq_ok_iff exact_decodeText, ofMember_eq_ok_iff hfields,
      need_eq_ok_iff, pure, Except.pure, Except.ok.injEq]
    constructor
    · rintro ⟨fields?, hfields, name?, hname, name, rfl, rfl⟩
      exact ⟨needed_iff.2 hname, defaulted_iff.2 ⟨fields?, hfields, rfl⟩⟩
    · rintro ⟨hname, hfields⟩
      obtain ⟨fields?, hfields, heq⟩ := defaulted_iff.1 hfields
      exact ⟨fields?, hfields, _, needed_iff.1 hname, _, rfl, by rw [heq]⟩
  · simp only [bind_eq_ok_iff, needItem_eq_ok_iff exact_decodeText, ofItem_eq_ok_iff hfields,
      pure, Except.pure, Except.ok.injEq]
    constructor
    · rintro ⟨name, hname, fields?, hfields, rfl⟩
      exact ⟨hname, defaulted_iff.2 ⟨fields?, hfields, rfl⟩⟩
    · rintro ⟨hname, hfields⟩
      obtain ⟨fields?, hfields, heq⟩ := defaulted_iff.1 hfields
      exact ⟨_, hname, fields?, hfields, by rw [heq]⟩

lemma exact_decode : Exact Document.decode EncodesDocument := by
  have henums := exact_decodeList exact_decodeEnum
  have hentities := exact_decodeList exact_decodeEntity
  refine exact_decodeRecord (fun members document => ?_) fun items document => ?_
  · simp only [bind_eq_ok_iff, ofMember_eq_ok_iff henums, ofMember_eq_ok_iff hentities,
      need_eq_ok_iff, pure, Except.pure, Except.ok.injEq]
    constructor
    · rintro ⟨enums?, henums, entities?, hentities, entities, rfl, rfl⟩
      exact ⟨defaulted_iff.2 ⟨enums?, henums, rfl⟩, needed_iff.2 hentities⟩
    · rintro ⟨henums, hentities⟩
      obtain ⟨enums?, henums, heq⟩ := defaulted_iff.1 henums
      exact ⟨enums?, henums, _, needed_iff.1 hentities, _, rfl, by rw [heq]⟩
  · simp only [bind_eq_ok_iff, ofItem_eq_ok_iff henums, needItem_eq_ok_iff hentities,
      pure, Except.pure, Except.ok.injEq]
    constructor
    · rintro ⟨enums?, henums, entities, hentities, rfl⟩
      exact ⟨defaulted_iff.2 ⟨enums?, henums, rfl⟩, hentities⟩
    · rintro ⟨henums, hentities⟩
      obtain ⟨enums?, henums, heq⟩ := defaulted_iff.1 henums
      exact ⟨enums?, henums, _, hentities, by rw [heq]⟩

/-! ## Documents -/

lemma holdsDatamodel_iff {value datamodel : Value} :
    HoldsDatamodel value datamodel ↔ datamodelOf value = datamodel := by
  constructor
  · rintro (hmember | hnone)
    · simp [datamodelOf, hmember]
    · cases value with
      | object members => simp [datamodelOf, hnone members rfl]
      | _ => rfl
  · rintro rfl
    cases value with
    | object members =>
      cases hmember : member? members "datamodel" with
      | none =>
        have hbare : datamodelOf (.object members) = .object members := by
          simp [datamodelOf, hmember]
        rw [hbare]
        refine .bare fun others heq => ?_
        cases heq
        exact hmember
      | some datamodel =>
        have hwrapped : datamodelOf (.object members) = datamodel := by
          simp [datamodelOf, hmember]
        rw [hwrapped]
        exact .wrapped hmember
    | _ => exact .bare fun members heq => by cases heq

/-- **Decoding accepts exactly the encodings of documents.**  A value is decoded to a document
exactly when it encodes that document, and a text stands for a document exactly when it is JSON of a
value that holds an encoding of it. -/
theorem decode_eq_ok_iff_encodes :
    (∀ (value : Value) (document : Document),
      Document.decode value = .ok document ↔ EncodesDocument value document) ∧
    ∀ (text : String) (document : Document),
      Document.parse text = .ok document ↔
        ∃ value datamodel, Json.parse text = .ok value ∧ HoldsDatamodel value datamodel ∧
          EncodesDocument datamodel document := by
  refine ⟨exact_decode, fun text document => ?_⟩
  simp only [Document.parse, parseJson, bind_eq_ok_iff, mapError_eq_ok_iff, holdsDatamodel_iff,
    exact_decode _ document]
  constructor
  · rintro ⟨value, hvalue, hencodes⟩
    exact ⟨value, _, hvalue, rfl, hencodes⟩
  · rintro ⟨value, _, hvalue, rfl, hencodes⟩
    exact ⟨value, hvalue, hencodes⟩

/-- Lists and objects in one value, with unknown members and with defaults at the end left out. -/
example : Document.decode (.array [.array [],
      .array [.array [.string "User", .array [.object [("kind", .object [("object", .null)]),
        ("list", .null), ("name", .string "posts"), ("type", .string "Post")]]]]]) =
    .ok ⟨[], [⟨"User", [.plain "posts" .relation "Post"]⟩]⟩ := rfl

end EntSchema.Model

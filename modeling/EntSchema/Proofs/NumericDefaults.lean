import EntSchema.Proofs.DocumentRoundTrip
import EntSchema.Schema.Building

/-!
# Numbers given as defaults

A number that a document gives as the default of a field is read, held and written again before it
stands in a declaration.  An integer of 64 bits keeps its digits on the way.  Any other number is
held in floating point and may come out in other digits, but they are still a literal of Go.

Both rest on what the reader can give: integers of 64 bits and floating-point numbers of the format
(`fits_of_parse`).
-/

namespace EntSchema

open Json (Value Number FitsWord EndsNumber integerText member? readValue skipBlank)
open Model (Document Entity Field Default)

/-! ## Integers -/

/-- The digits of an integer are those of its usual text. -/
lemma Json.integerText_eq_toString (value : Int) : integerText value = (toString value).toList := by
  unfold integerText Decimal.digitsOf
  cases value with
  | ofNat n =>
    rw [if_neg (by simp)]
    simp [toString, Int.repr, Nat.repr]
  | negSucc n =>
    rw [if_pos (Int.negSucc_lt_zero n)]
    simp [toString, Int.repr, Nat.repr]

/-- An integer is read as itself, behind white space and in front of what ends a number. -/
lemma Json.readValue_toString {n : Int} (h : FitsWord n) (depth : Nat) {blank rest : List Char}
    (hblank : skipBlank blank = []) (hrest : EndsNumber rest) :
    readValue depth (blank ++ ((toString n).toList ++ rest)) =
      .ok (.number (.integer n), rest) := by
  have hskip : skipBlank (blank ++ ((toString n).toList ++ rest)) =
      skipBlank ((toString n).toList ++ rest) := by
    unfold skipBlank at hblank ⊢
    rw [List.dropWhile_append, hblank]
    rfl
  rw [← readValue_skipBlank, hskip, readValue_skipBlank, ← integerText_eq_toString]
  exact readsBack_integer h rest hrest

/-! ## Fields -/

/-- A value that is read as a field gives its default: under its key, or at its place. -/
inductive GivesDefault : Value → Value → Prop
  | member {members : List (String × Value)} {given : Value}
    (hmember : member? members "default" = some given) : GivesDefault (.object members) given
  | item {items : List Value} {given : Value} (hitem : items[4]? = some given) :
    GivesDefault (.array items) given

lemma eq_number_of_defaulted {x : Number} {default? : Option Default}
    (h : Model.Defaulted Model.EncodesDefault none (some (.number x)) default?) :
    default? = some (.number x) := by
  cases h with
  | given hvalue =>
    cases hvalue
    rfl

lemma default?_of_givesNumber {value : Value} {field : Field} {x : Number}
    (hfield : Model.decodeField value = .ok field) (hgives : GivesDefault value (.number x)) :
    field.default? = some (.number x) := by
  have hencodes : Model.EncodesField value field := (Model.exact_decodeField _ _).1 hfield
  cases hencodes with
  | object hparts =>
    cases hgives with
    | member hmember =>
      have hdefault := hparts.default?
      rw [hmember] at hdefault
      exact eq_number_of_defaulted hdefault
  | list hsize hparts =>
    cases hgives with
    | item hitem =>
      have hdefault := hparts.default?
      rw [hitem] at hdefault
      exact eq_number_of_defaulted hdefault

section Declarations

variable {classification : Model.Classification} {index : Model.Index} {types : TypeTable}
  {field : Field} {declaration : FieldDecl} {x : Number}

/-- A declared field has the modifiers of the field, whatever it is declared as. -/
lemma modifiers_of_declare
    (h : declare classification index types field = .ok (some declaration)) :
    declaration.modifiers = modifiersOf field := by
  cases hkind : field.kind with
  | relation =>
    rw [declare_of_relation hkind] at h
    cases h
  | enumeration =>
    rw [declare_of_enumeration hkind] at h
    split at h
    · cases h
    · cases h
      rfl
  | scalar =>
    rw [declare_of_scalar hkind] at h
    split at h
    · cases h
    · obtain ⟨mapping, -, rfl⟩ := Option.map_eq_some_iff.1 (Except.ok.inj h)
      rfl

/-- The text of a declared field whose default is a number. -/
lemma text_of_declare_number
    (h : declare classification index types field = .ok (some declaration))
    (hdefault : field.default? = some (.number x)) :
    declaration.text = declaration.callText ++ (if field.isRequired then "" else ".Optional()") ++
      (".Default(" ++ x.text ++ ")") := by
  have hliteral : defaultLiteral? field = some (.number x.text) := by
    rw [defaultLiteral?, hdefault]
    rfl
  unfold FieldDecl.text
  rw [modifiers_of_declare h, modifiersOf, hliteral]
  by_cases hrequired : field.isRequired = true
  · rw [if_pos hrequired, if_pos hrequired]
    simp [String.join, Modifier.text, Literal.text]
  · rw [if_neg hrequired, if_neg hrequired]
    simp [String.join, Modifier.text, Literal.text, String.append_assoc]

end Declarations

/-! ## Documents -/

section Documents

variable {text : String} {document : Document} {entity : Entity} {field : Field} {x : Number}

/-- The number that a document gives as a default is one that can be read. -/
lemma fits_of_parse (hparse : Document.parse text = .ok document)
    (hentity : entity ∈ document.entities) (hfield : field ∈ entity.fields)
    (hdefault : field.default? = some (.number x)) : x.Fits := by
  obtain ⟨value, hvalue, hdecode⟩ := bind_eq_ok_iff.1 hparse
  have hcanonical : Json.IsCanonical Json.greatestDepth (Model.datamodelOf value) :=
    Model.isCanonical_datamodelOf (Json.isCanonical_of_parse (mapError_eq_ok_iff.1 hvalue))
  have hencodes : Model.EncodesDocument (Model.datamodelOf value) document :=
    (Model.exact_decode _ _).1 (mapError_eq_ok_iff.1 hdecode)
  have hwritten := (hencodes.hasCanonicalDefault hcanonical entity hentity field hfield).2
  rw [hdefault] at hwritten
  cases hwritten with
  | number hfits => exact hfits

lemma Json.Number.isNumberLiteral_text (hfits : x.Fits) : Go.IsNumberLiteral x.text.toList := by
  unfold text
  rw [String.toList_ofList]
  cases x with
  | integer value => exact isNumberLiteral_integerText value
  | float value => exact Decimal.isNumberLiteral_text numberLayout hfits

end Documents

/-! ## Defaults in declarations -/

/-- An integer that is given as a default keeps its digits: where it stands in a text, in the field
that is read, and in every declaration of that field. -/
structure KeepsDigits (n : Int) : Prop where
  read : ∀ (depth : Nat) (blank rest : List Char), skipBlank blank = [] → EndsNumber rest →
    readValue depth (blank ++ ((toString n).toList ++ rest)) = .ok (.number (.integer n), rest)
  declared : ∀ (value : Value) (field : Field), Model.decodeField value = .ok field →
    GivesDefault value (.number (.integer n)) →
      ∀ (classification : Model.Classification) (index : Model.Index) (types : TypeTable)
        (declaration : FieldDecl),
        declare classification index types field = .ok (some declaration) →
          declaration.text =
            declaration.callText ++ (if field.isRequired then "" else ".Optional()") ++
              (".Default(" ++ toString n ++ ")")

/-- Every number that a document gives as a default is written as a literal of Go, and stands as
that in every declaration of its field. -/
structure WritesLiterals (document : Document) : Prop where
  literal : ∀ entity ∈ document.entities, ∀ field ∈ entity.fields, ∀ x : Number,
    field.default? = some (.number x) → Go.IsNumberLiteral x.text.toList
  declared : ∀ entity ∈ document.entities, ∀ field ∈ entity.fields, ∀ x : Number,
    field.default? = some (.number x) →
      ∀ (classification : Model.Classification) (index : Model.Index) (types : TypeTable)
        (declaration : FieldDecl),
        declare classification index types field = .ok (some declaration) →
          declaration.text =
            declaration.callText ++ (if field.isRequired then "" else ".Optional()") ++
              (".Default(" ++ x.text ++ ")")

/-- **Numeric defaults reach Go.**  Integers of 64 bits, signed or unsigned, do so digit by digit,
and every other number that is read does so as a literal. -/
theorem numeric_defaults_reach_go :
    (∀ n : Int, -2 ^ 63 ≤ n → n ≤ 2 ^ 64 - 1 → KeepsDigits n) ∧
    ∀ (text : String) (document : Document), Document.parse text = .ok document →
      WritesLiterals document := by
  constructor
  · intro n hleast hgreatest
    have hfits : FitsWord n := by
      have hbound : Json.greatestSignificand = 2 ^ 64 - 1 := rfl
      have hhalf : Nat.pow 2 63 = 2 ^ 63 := rfl
      unfold FitsWord
      omega
    have htext : (Number.integer n).text = toString n := by
      show String.ofList (integerText n) = toString n
      rw [Json.integerText_eq_toString, String.ofList_toList]
    constructor
    case read =>
      intro depth blank rest hblank hrest
      exact Json.readValue_toString hfits depth hblank hrest
    case declared =>
      intro value field hfield hgives classification index types declaration hdeclared
      rw [← htext]
      exact text_of_declare_number hdeclared (default?_of_givesNumber hfield hgives)
  · intro text document hparse
    constructor
    case literal =>
      intro entity hentity field hfield x hdefault
      exact Json.Number.isNumberLiteral_text (fits_of_parse hparse hentity hfield hdefault)
    case declared =>
      intro entity hentity field hfield x hdefault classification index types declaration hdeclared
      exact text_of_declare_number hdeclared hdefault

/-- A document with a default at the end of the unsigned words, and one behind it. -/
def counterText : String :=
  r#"{"models":[["Counter",[["top","scalar","BigInt",true, 18446744073709551615],"# ++
    r#"["past","scalar","Float",false,18446744073709551616]]]]}"#

def topField : Field :=
  (Field.scalar "top" "BigInt").withDefault (.number (.integer 18446744073709551615))

def pastField : Field :=
  ((Field.scalar "past" "Float").withDefault
    (.number (.float ⟨false, ⟨4503599627370496, 12⟩⟩))).optional

def counterEntity : Entity := ⟨"Counter", [topField, pastField]⟩

def topDecl : FieldDecl := .typed "Int64" "top" none [.default (.number "18446744073709551615")]

def pastDecl : FieldDecl :=
  .typed "Float" "past" none [.optional, .default (.number "1.8446744073709552e+19")]

theorem counterText_reaches_go :
    Document.parse counterText = .ok ⟨[], [counterEntity]⟩ ∧
    readValue 0 " 18446744073709551615]".toList =
      .ok (.number (.integer 18446744073709551615), [']']) ∧
    topDecl.text = "field.Int64(\"top\").Default(18446744073709551615)" ∧
    Go.IsNumberLiteral "1.8446744073709552e+19".toList ∧
    pastDecl.text = "field.Float(\"past\").Optional().Default(1.8446744073709552e+19)" := by
  have hparse : Document.parse counterText = .ok ⟨[], [counterEntity]⟩ := by decide +kernel
  obtain ⟨hintegers, hdocuments⟩ := numeric_defaults_reach_go
  have hkeeps := hintegers 18446744073709551615 (by decide) (by decide)
  have hwrites := hdocuments counterText _ hparse
  have hpast : pastField ∈ counterEntity.fields :=
    List.mem_cons_of_mem _ List.mem_cons_self
  have hpastText :
      (Number.float ⟨false, ⟨4503599627370496, 12⟩⟩).text = "1.8446744073709552e+19" := by
    decide +kernel
  refine ⟨hparse, ?_, ?_, ?_, ?_⟩
  · exact hkeeps.read 0 [' '] [']'] rfl ⟨rfl, by decide, by decide, by decide⟩
  · have hread : Model.decodeField (.array [.string "top", .string "scalar", .string "BigInt",
        .bool true, .number (.integer 18446744073709551615)]) = .ok topField := by
      decide +kernel
    exact hkeeps.declared _ topField hread (.item rfl) counterEntity.classify
      (Model.Index.ofDocument ⟨[], [counterEntity]⟩) .builtin topDecl (by decide +kernel)
  · rw [← hpastText]
    exact hwrites.literal counterEntity List.mem_cons_self pastField hpast _ rfl
  · rw [hwrites.declared counterEntity List.mem_cons_self pastField hpast _ rfl
      counterEntity.classify (Model.Index.ofDocument ⟨[], [counterEntity]⟩) .builtin pastDecl
      (by decide +kernel), hpastText]
    rfl

end EntSchema

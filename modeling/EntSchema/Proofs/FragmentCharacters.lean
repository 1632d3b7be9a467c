import EntSchema.Proofs.QuotedText
import EntSchema.Schema.Building

/-!
# The characters of a fragment

A fragment is made of three kinds of text: fixed text of printable ASCII, texts that are written
between quotes, and texts that are written as they come, the *raw* ones.  So a property that
printable ASCII has holds of every character of a fragment exactly when it holds of every character
of the raw texts and of the literals (`FieldDecl.allChars_text_iff`, `EdgeDecl.allChars_text_iff`).
-/

namespace EntSchema

/-! ## Raw texts -/

/-- The texts that a literal is written with as they are. -/
def Literal.rawTexts : Literal → List String
  | .number text => [text]
  | .bool _ | .string _ => []

def Modifier.rawTexts : Modifier → List String
  | .optional => []
  | .default value => value.rawTexts

def FieldDecl.rawTexts : FieldDecl → List String
  | .typed builder _ literal? modifiers =>
    builder :: literal?.toList ++ modifiers.flatMap Modifier.rawTexts
  | .enumeration _ _ modifiers => modifiers.flatMap Modifier.rawTexts

def EdgeDecl.rawTexts (edge : EdgeDecl) : List String := [edge.target]

/-- The texts that a schema is written with as they are: its name, and the builders, arguments,
numbers and targets of its declarations. -/
def EntitySchema.rawTexts (schema : EntitySchema) : List String :=
  schema.name :: schema.fields.flatMap FieldDecl.rawTexts ++
    schema.edges.flatMap EdgeDecl.rawTexts

/-! ## Quoted texts -/

/-- The texts that a literal is written with between quotes. -/
def Literal.quotedTexts : Literal → List String
  | .string value => [value]
  | .bool _ | .number _ => []

def Modifier.quotedTexts : Modifier → List String
  | .optional => []
  | .default value => value.quotedTexts

def FieldDecl.quotedTexts : FieldDecl → List String
  | .typed _ name _ modifiers => name :: modifiers.flatMap Modifier.quotedTexts
  | .enumeration name values modifiers =>
    name :: values ++ modifiers.flatMap Modifier.quotedTexts

/-- The texts that a schema is written with between quotes: the names of its declarations, the
values of its enums and its text defaults. -/
def EntitySchema.quotedTexts (schema : EntitySchema) : List String :=
  schema.fields.flatMap FieldDecl.quotedTexts ++ schema.edges.map EdgeDecl.name

/-! ## Characters of a text -/

/-- Whether all characters of a text have a property. -/
def AllChars (P : Char → Prop) (text : String) : Prop := ∀ c ∈ text.toList, P c

/-- Whether a character is printable ASCII, the space included. -/
def IsPlain (c : Char) : Prop := 0x20 ≤ c.toNat ∧ c.toNat < 0x7f

instance (c : Char) : Decidable (IsPlain c) := inferInstanceAs (Decidable (_ ∧ _))

instance (P : Char → Prop) [DecidablePred P] (text : String) : Decidable (AllChars P text) :=
  List.decidableBAll P text.toList

section Characters

variable {P : Char → Prop}

lemma AllChars.mono {Q : Char → Prop} (h : ∀ c, P c → Q c) {text : String}
    (htext : AllChars P text) : AllChars Q text :=
  fun c hc => h c (htext c hc)

lemma allChars_append {a b : String} : AllChars P (a ++ b) ↔ AllChars P a ∧ AllChars P b := by
  simp only [AllChars, String.toList_append, List.forall_mem_append]

lemma allChars_join {texts : List String} :
    AllChars P (String.join texts) ↔ ∀ text ∈ texts, AllChars P text := by
  simp only [AllChars, String.toList_join, List.mem_flatMap]
  exact ⟨fun h text htext c hc => h c ⟨text, htext, hc⟩,
    fun h c ⟨text, htext, hc⟩ => h text htext c hc⟩

lemma allChars_intercalate {separator : String} {texts : List String}
    (hseparator : AllChars P separator) :
    AllChars P (separator.intercalate texts) ↔ ∀ text ∈ texts, AllChars P text := by
  induction texts with
  | nil => simp [AllChars]
  | cons text rest ih =>
    cases rest with
    | nil => simp
    | cons next rest =>
      rw [String.intercalate_cons_cons, allChars_append, allChars_append, ih]
      simp [hseparator]

/-! ## Characters of a fragment -/

section Fragments

variable (hplain : ∀ c, IsPlain c → P c)

include hplain

lemma Literal.allChars_text_iff (literal : Literal) :
    AllChars P literal.text ↔ (∀ raw ∈ literal.rawTexts, AllChars P raw) ∧
      ∀ quoted ∈ literal.quotedTexts, AllChars P (Go.quote quoted) := by
  have hfixed {text : String} (h : AllChars IsPlain text) : AllChars P text := h.mono hplain
  cases literal with
  | bool value =>
    have hvalue : AllChars P (Literal.bool value).text := by
      cases value
      · exact hfixed (by decide)
      · exact hfixed (by decide)
    simp [hvalue, rawTexts, quotedTexts]
  | number text => simp [Literal.text, rawTexts, quotedTexts]
  | string value => simp [Literal.text, rawTexts, quotedTexts]

lemma Modifier.allChars_text_iff (modifier : Modifier) :
    AllChars P modifier.text ↔ (∀ raw ∈ modifier.rawTexts, AllChars P raw) ∧
      ∀ quoted ∈ modifier.quotedTexts, AllChars P (Go.quote quoted) := by
  have hfixed {text : String} (h : AllChars IsPlain text) : AllChars P text := h.mono hplain
  cases modifier with
  | optional =>
    have hoptional : AllChars P Modifier.optional.text := hfixed (by decide)
    simp [hoptional, rawTexts, quotedTexts]
  | default value =>
    have hopening : AllChars P ".Default(" := hfixed (by decide)
    have hclosing : AllChars P ")" := hfixed (by decide)
    simp only [Modifier.text, allChars_append, hopening, hclosing, true_and, and_true]
    exact value.allChars_text_iff hplain

lemma Modifier.allChars_join_iff (modifiers : List Modifier) :
    AllChars P (String.join (modifiers.map Modifier.text)) ↔
      (∀ raw ∈ modifiers.flatMap Modifier.rawTexts, AllChars P raw) ∧
        ∀ quoted ∈ modifiers.flatMap Modifier.quotedTexts, AllChars P (Go.quote quoted) := by
  rw [allChars_join, List.forall_mem_map]
  simp only [Modifier.allChars_text_iff hplain, List.forall_mem_flatMap]
  exact forall₂_and

lemma FieldDecl.allChars_text_iff (declaration : FieldDecl) :
    AllChars P declaration.text ↔ (∀ raw ∈ declaration.rawTexts, AllChars P raw) ∧
      ∀ quoted ∈ declaration.quotedTexts, AllChars P (Go.quote quoted) := by
  have hfixed {text : String} (h : AllChars IsPlain text) : AllChars P text := h.mono hplain
  have hclosing : AllChars P ")" := hfixed (by decide)
  rw [FieldDecl.text, allChars_append, Modifier.allChars_join_iff hplain]
  cases declaration with
  | typed builder name literal? modifiers =>
    have hfield : AllChars P "field." := hfixed (by decide)
    have hopening : AllChars P "(" := hfixed (by decide)
    have hcomma : AllChars P ", " := hfixed (by decide)
    have hcall : AllChars P (callText (.typed builder name literal? modifiers)) ↔
        (∀ raw ∈ builder :: literal?.toList, AllChars P raw) ∧ AllChars P (Go.quote name) := by
      cases literal? with
      | none => simp [callText, allChars_append, hfield, hopening, hclosing]
      | some literal =>
        simp [callText, allChars_append, hfield, hopening, hclosing, hcomma, and_right_comm]
    simp only [hcall, rawTexts, quotedTexts, FieldDecl.modifiers, List.forall_mem_append,
      List.forall_mem_cons]
    exact and_and_and_comm
  | enumeration name values modifiers =>
    have henum : AllChars P "field.Enum(" := hfixed (by decide)
    have hopening : AllChars P ").Values(" := hfixed (by decide)
    have hcomma : AllChars P "," := hfixed (by decide)
    have hcall : AllChars P (callText (.enumeration name values modifiers)) ↔
        ∀ quoted ∈ name :: values, AllChars P (Go.quote quoted) := by
      simp [callText, allChars_append, allChars_intercalate hcomma, henum, hopening, hclosing]
    simp only [hcall, rawTexts, quotedTexts, FieldDecl.modifiers, List.forall_mem_append]
    exact and_left_comm

lemma EdgeDecl.allChars_text_iff (edge : EdgeDecl) :
    AllChars P edge.text ↔ AllChars P edge.target ∧ AllChars P (Go.quote edge.name) := by
  have hfixed {text : String} (h : AllChars IsPlain text) : AllChars P text := h.mono hplain
  have hopening : AllChars P "edge.To(" := hfixed (by decide)
  have hcomma : AllChars P ", " := hfixed (by decide)
  have hclosing : AllChars P ".Type)" := hfixed (by decide)
  simp only [EdgeDecl.text, allChars_append, hopening, hcomma, hclosing, true_and, and_true]
  exact and_comm

end Fragments

end Characters

end EntSchema

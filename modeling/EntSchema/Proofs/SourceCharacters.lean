import EntSchema.Proofs.FragmentCharacters
import EntSchema.Schema.SourceText

/-!
# The characters of a source file

A source file is made of fixed lines, raw texts and quoted texts, so what holds of all its
characters is what holds of all of theirs (`allChars_sourceText_iff`).

The main result, `sourceText_isSourceChar_iff`, says which characters a file has when its raw texts
are printable ASCII.  Line feeds and tabs are its only control characters, whatever the quoted texts
hold, since quoting escapes all others.  The byte order mark is no control character and is quoted
as it is, and Go has no place for it in a file: a file is free of it exactly when the quoted texts
are.
-/

namespace EntSchema

section Source

variable {P : Char → Prop}

/-! ## Lines -/

lemma allChars_textOfLines (hfeed : P '\n') {lines : List String} :
    AllChars P (textOfLines lines) ↔ ∀ line ∈ lines, AllChars P line := by
  have hend : AllChars P "\n" := by simpa [AllChars] using hfeed
  rw [textOfLines, allChars_join, List.forall_mem_map]
  simp only [allChars_append, hend, and_true]

variable (hplain : ∀ c, IsPlain c → P c) (htab : P '\t')

include hplain htab

lemma allChars_fixed {text : String} (h : AllChars (fun c => IsPlain c ∨ c = '\t') text) :
    AllChars P text := by
  refine h.mono fun c hc => ?_
  rcases hc with hc | rfl
  · exact hplain c hc
  · exact htab

lemma allChars_returnLines {type : String} (htype : AllChars P type) {fragments : List String} :
    (∀ line ∈ returnLines type fragments, AllChars P line) ↔
      ∀ fragment ∈ fragments, AllChars P fragment := by
  have hfixed := @allChars_fixed P hplain htab
  cases fragments with
  | nil => simp +decide [returnLines, hfixed]
  | cons fragment rest =>
    have hlines : returnLines type (fragment :: rest) = ("\treturn []" ++ type ++ r"{") ::
        ((fragment :: rest).map (fun fragment => "\t\t" ++ fragment ++ ",") ++
          ["\t" ++ r"}"]) := rfl
    rw [hlines, List.forall_mem_cons, List.forall_mem_append, List.forall_mem_map]
    simp +decide only [allChars_append, hfixed, htype, List.forall_mem_singleton, true_and,
      and_true]

lemma allChars_sourceLines_iff (package : String) (schema : EntitySchema) :
    (∀ line ∈ sourceLines package schema, AllChars P line) ↔
      (∀ raw ∈ package :: schema.rawTexts, AllChars P raw) ∧
        ∀ quoted ∈ schema.quotedTexts, AllChars P (Go.quote quoted) := by
  have hfixed := @allChars_fixed P hplain htab
  have himports : ∀ line ∈ importLines schema, AllChars P line := by
    unfold importLines
    split <;> split <;> simp +decide [hfixed]
  have hfields : (∀ line ∈ returnLines "ent.Field" (schema.fields.map FieldDecl.text),
        AllChars P line) ↔
      (∀ raw ∈ schema.fields.flatMap FieldDecl.rawTexts, AllChars P raw) ∧
        ∀ quoted ∈ schema.fields.flatMap FieldDecl.quotedTexts, AllChars P (Go.quote quoted) := by
    rw [allChars_returnLines hplain htab (hfixed (by decide)), List.forall_mem_map]
    simp only [FieldDecl.allChars_text_iff hplain, List.forall_mem_flatMap]
    exact forall₂_and
  have hedges : (∀ line ∈ returnLines "ent.Edge" (schema.edges.map EdgeDecl.text),
        AllChars P line) ↔
      (∀ raw ∈ schema.edges.flatMap EdgeDecl.rawTexts, AllChars P raw) ∧
        ∀ quoted ∈ schema.edges.map EdgeDecl.name, AllChars P (Go.quote quoted) := by
    rw [allChars_returnLines hplain htab (hfixed (by decide)), List.forall_mem_map]
    simp only [EdgeDecl.allChars_text_iff hplain, List.forall_mem_flatMap, List.forall_mem_map,
      EdgeDecl.rawTexts, List.forall_mem_singleton]
    exact forall₂_and
  simp +decide only [sourceLines, typeLines, accessorLines, EntitySchema.rawTexts,
    EntitySchema.quotedTexts, List.forall_mem_append, List.forall_mem_cons, List.cons_append,
    eq_true himports, hfields, hedges, allChars_append, hfixed, List.not_mem_nil,
    IsEmpty.forall_iff, implies_true, true_and, and_true]
  tauto

lemma allChars_sourceText_iff (hfeed : P '\n') (package : String) (schema : EntitySchema) :
    AllChars P (sourceText package schema) ↔
      (∀ raw ∈ package :: schema.rawTexts, AllChars P raw) ∧
        ∀ quoted ∈ schema.quotedTexts, AllChars P (Go.quote quoted) := by
  rw [sourceText, allChars_textOfLines hfeed, allChars_sourceLines_iff hplain htab]

end Source

/-! ## Characters that Go takes -/

namespace Go

/-- The byte order mark. -/
def byteOrderMark : Char := '\uFEFF'

/-- Whether a character can stand inside a Go file: it is no byte order mark, and no control
character but a line feed or a tab. -/
structure IsSourceChar (c : Char) : Prop where
  control : isControl c = true → c = '\n' ∨ c = '\t'
  mark : c ≠ byteOrderMark

lemma isSourceChar_of_isPlain (c : Char) (h : IsPlain c) : IsSourceChar c := by
  have hcode : 0x20 ≤ c.toNat ∧ c.toNat < 0x7f := h
  constructor
  case control =>
    intro hcontrol
    have hrange : c.toNat < 0x20 ∨ 0x7f ≤ c.toNat ∧ c.toNat < 0xa0 := by
      simpa [isControl] using hcontrol
    omega
  case mark =>
    rintro rfl
    exact absurd h (by decide)

lemma isPlain_of_mem_fourHexDigits {code : Nat} {c : Char} (h : c ∈ fourHexDigits code) :
    IsPlain c := by
  have hdigit (value : Nat) : IsPlain (hexDigit (value % 16)) := by
    have hbound : value % 16 < 16 := Nat.mod_lt value (by decide)
    generalize value % 16 = digit at hbound
    interval_cases digit <;> decide
  simp only [fourHexDigits, List.mem_cons, List.not_mem_nil, or_false] at h
  rcases h with rfl | rfl | rfl | rfl
  all_goals exact hdigit _

/-- The byte order mark comes from itself alone. -/
lemma byteOrderMark_mem_escape {c : Char} : byteOrderMark ∈ escape c ↔ c = byteOrderMark := by
  constructor
  · intro h
    have hplain : ¬IsPlain byteOrderMark := by decide
    unfold escape at h
    split_ifs at h with hquote hbackslash hfeed hreturn htab hcontrol
    · exact absurd h (by decide)
    · exact absurd h (by decide)
    · exact absurd h (by decide)
    · exact absurd h (by decide)
    · exact absurd h (by decide)
    · rcases List.mem_cons.1 h with hfirst | h
      · exact absurd hfirst (by decide)
      · rcases List.mem_cons.1 h with hsecond | hdigit
        · exact absurd hsecond (by decide)
        · exact absurd (isPlain_of_mem_fourHexDigits hdigit) hplain
    · exact (List.mem_singleton.1 h).symm
  · rintro rfl
    decide

lemma allChars_quote_iff (text : String) :
    AllChars IsSourceChar (quote text) ↔ byteOrderMark ∉ text.toList := by
  have hmem : byteOrderMark ∈ (quote text).toList ↔ byteOrderMark ∈ text.toList := by
    have hends : byteOrderMark ≠ '"' := by decide
    simp [toList_quote, quoteChars, hends, byteOrderMark_mem_escape]
  rw [← hmem]
  constructor
  · intro h hmark
    exact (h _ hmark).mark rfl
  · intro h c hc
    refine ⟨fun hcontrol => ?_, fun hmark => h (hmark ▸ hc)⟩
    rw [toList_quote] at hc
    rw [isControl_of_mem_quoteChars hc] at hcontrol
    exact absurd hcontrol (by simp)

end Go

/-- **Which characters a source file has**, when its raw texts are printable ASCII and its quoted
texts are any texts.  Line feeds and tabs are the only control characters, and the file is one that
Go takes exactly when no byte order mark is quoted in it. -/
theorem sourceText_isSourceChar_iff {package : String} {schema : EntitySchema}
    (plain : ∀ raw ∈ package :: schema.rawTexts, AllChars IsPlain raw) :
    (∀ c ∈ (sourceText package schema).toList,
      Go.isControl c = true → c = '\n' ∨ c = '\t') ∧
    (AllChars Go.IsSourceChar (sourceText package schema) ↔
      ∀ quoted ∈ schema.quotedTexts, Go.byteOrderMark ∉ quoted.toList) := by
  have hcontrol : ∀ c, IsPlain c → Go.isControl c = true → c = '\n' ∨ c = '\t' :=
    fun c hc => (Go.isSourceChar_of_isPlain c hc).control
  constructor
  · refine (allChars_sourceText_iff hcontrol (by decide) (by decide) package schema).2 ⟨?_, ?_⟩
    · exact fun raw hraw => (plain raw hraw).mono hcontrol
    · intro quoted _ c hc hcontrolled
      rw [Go.toList_quote] at hc
      rw [Go.isControl_of_mem_quoteChars hc] at hcontrolled
      exact absurd hcontrolled (by simp)
  · have hraw : ∀ raw ∈ package :: schema.rawTexts, AllChars Go.IsSourceChar raw :=
      fun raw hmem => (plain raw hmem).mono Go.isSourceChar_of_isPlain
    have htab : Go.IsSourceChar '\t' := ⟨by decide, by decide⟩
    have hfeed : Go.IsSourceChar '\n' := ⟨by decide, by decide⟩
    rw [allChars_sourceText_iff Go.isSourceChar_of_isPlain htab hfeed]
    simp only [Go.allChars_quote_iff, and_iff_right hraw]

/-- A schema whose quoted texts hold control characters of every kind. -/
def controlsSchema : EntitySchema :=
  ⟨"Signal",
    [.typed "String" "\x00\x1b\x7f" none [.optional, .default (.string "\r\n\t\u0085")],
      .enumeration "code\x08" ["\x01", "\u2028", ""] []],
    [⟨"\x0b\x0c", "User"⟩]⟩

theorem controlsSchema_isSourceChar :
    (∀ raw ∈ "schema" :: controlsSchema.rawTexts, AllChars IsPlain raw) ∧
    AllChars Go.IsSourceChar (sourceText "schema" controlsSchema) := by
  have hplain : ∀ raw ∈ "schema" :: controlsSchema.rawTexts, AllChars IsPlain raw := by
    unfold controlsSchema
    decide
  exact ⟨hplain, (sourceText_isSourceChar_iff hplain).2.2 (by decide)⟩

/-- A schema with a default that starts with a byte order mark. -/
def markedSchema : EntitySchema :=
  ⟨"Export", [.typed "String" "header" none [.default (.string "\ufeffid")]], []⟩

/-- The mark is written into the file as it is. -/
theorem markedSchema_holds_mark :
    (∀ raw ∈ "schema" :: markedSchema.rawTexts, AllChars IsPlain raw) ∧
    Go.byteOrderMark ∈ (sourceText "schema" markedSchema).toList := by
  refine ⟨by unfold markedSchema; decide, ?_⟩
  by_contra hfree
  have hall : AllChars (· ≠ Go.byteOrderMark) (sourceText "schema" markedSchema) := by
    rintro c hc rfl
    exact hfree hc
  have hplain : ∀ c, IsPlain c → c ≠ Go.byteOrderMark :=
    fun c hc => (Go.isSourceChar_of_isPlain c hc).mark
  have hparts := (allChars_sourceText_iff hplain (by decide) (by decide) _ _).1 hall
  exact absurd (hparts.2 "\ufeffid" (by decide)) (by decide)

end EntSchema

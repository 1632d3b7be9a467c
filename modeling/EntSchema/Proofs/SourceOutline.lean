import EntSchema.Proofs.SourceCharacters
import Mathlib.Data.List.DropRight

/-!
# The outline of a source file

`Outline.ofText` reads a source file line by line: the package from the first line, the name of the
entity from the line of its type, and from the accessors the fragments of the declared fields and
edges.  It knows nothing of declarations and trusts no character of a name or a text.

The main result, `sourceText_readsBack`, says that this reading undoes the writing, as long as the
texts that are written as they come keep to one line.  What makes it work is that a fragment never
breaks its line, since all else is quoted, and that the *opening* of a line, its first two
characters, tells what kind of line it is.
-/

namespace EntSchema

/-! ## Lines -/

/-- The lines of a text, and what follows the last line feed. -/
def linesOf (text : String) : List String :=
  (text.toList.splitOn '\n').map String.ofList

/-- Lines that hold no line feed are found again. -/
lemma linesOf_textOfLines {lines : List String} (h : ∀ line ∈ lines, AllChars (· ≠ '\n') line) :
    linesOf (textOfLines lines) = lines ++ [""] := by
  have hsplit : (textOfLines lines).toList.splitOn '\n' =
      lines.map String.toList ++ [[]] := by
    unfold textOfLines
    rw [String.toList_join]
    induction lines with
    | nil => rfl
    | cons line rest ih =>
      rw [List.forall_mem_cons] at h
      have hline : '\n' ∉ line.toList := fun hmem => h.1 '\n' hmem rfl
      simp only [List.map_cons, List.flatMap_cons, String.toList_append]
      rw [show "\n".toList = ['\n'] from rfl, List.append_assoc, List.singleton_append,
        List.splitOn_append_cons_self, List.splitOn_eq_singleton hline, ih h.2]
      rfl
  simp [linesOf, hsplit, Function.comp_def]

/-- The first two characters of a line. -/
def opening (line : String) : List Char := line.toList.take 2

lemma ne_of_opening {a b : String} (h : opening a ≠ opening b) : a ≠ b :=
  fun heq => h (congrArg opening heq)

/-- What stands between a known front and a known back. -/
def between (front back line : String) : String :=
  String.ofList ((line.toList.drop front.toList.length).rdrop back.toList.length)

@[simp] lemma between_append (front text back : String) :
    between front back (front ++ text ++ back) = text := by
  simp [between, List.rdrop_append_length]

/-! ## Accessors -/

def fieldsHead (name : String) : String := "func (" ++ name ++ r") Fields() []ent.Field {"

def edgesHead (name : String) : String := "func (" ++ name ++ r") Edges() []ent.Edge {"

/-- The lines behind the line `head`, up to the next closing brace on a line of its own. -/
def bodyBehind (head : String) (lines : List String) : List String :=
  ((lines.dropWhile (· ≠ head)).drop 1).takeWhile (· ≠ r"}")

/-- The lines of that body that a declaration takes: those with two tabs in front. -/
def declarationLines (head : String) (lines : List String) : List String :=
  (bodyBehind head lines).filter (opening · = ['\t', '\t'])

def declarationLine (fragment : String) : String := "\t\t" ++ fragment ++ ","

lemma bodyBehind_append {head : String} {before body : List String} (after : List String)
    (hbefore : ∀ line ∈ before, line ≠ head) (hbody : ∀ line ∈ body, line ≠ r"}") :
    bodyBehind head (before ++ head :: (body ++ r"}" :: after)) = body := by
  have hbehind : (before ++ head :: (body ++ r"}" :: after)).dropWhile (· ≠ head) =
      head :: (body ++ r"}" :: after) := by
    rw [List.dropWhile_append_of_pos (by simpa using hbefore)]
    simp
  rw [bodyBehind, hbehind, List.drop_one, List.tail_cons,
    List.takeWhile_append_of_pos (by simpa using hbody)]
  simp

section Bodies

variable (type : String) (fragments : List String)

lemma opening_mem_of_mem_returnLines : ∀ line ∈ returnLines type fragments,
    opening line ∈ [['\t', 'r'], ['\t', '\t'], ['\t', '}']] := by
  intro line hline
  unfold returnLines at hline
  split at hline
  · simp_all [opening]
  · simp only [List.cons_append, List.mem_cons, List.mem_append, List.mem_map, List.not_mem_nil,
      or_false] at hline
    rcases hline with rfl | ⟨fragment, -, rfl⟩ | rfl <;> simp [opening]

lemma ne_of_mem_returnLines {other : String}
    (hother : opening other ∉ [['\t', 'r'], ['\t', '\t'], ['\t', '}']]) :
    ∀ line ∈ returnLines type fragments, line ≠ other := by
  rintro line hline rfl
  exact hother (opening_mem_of_mem_returnLines type fragments line hline)

lemma filter_returnLines :
    (returnLines type fragments).filter (opening · = ['\t', '\t']) =
      fragments.map declarationLine := by
  have hall : ∀ line ∈ fragments.map declarationLine, opening line = ['\t', '\t'] := by
    simp [declarationLine, opening]
  cases fragments with
  | nil => simp [returnLines, opening]
  | cons fragment rest =>
    have hreturn : opening ("\treturn []" ++ type ++ r"{") ≠ ['\t', '\t'] := by simp [opening]
    have hend : opening ("\t" ++ r"}") ≠ ['\t', '\t'] := by simp [opening]
    have hlines : returnLines type (fragment :: rest) =
        ("\treturn []" ++ type ++ r"{") ::
          ((fragment :: rest).map declarationLine ++ ["\t" ++ r"}"]) := rfl
    rw [hlines, List.filter_cons_of_neg (by simpa using hreturn), List.filter_append,
      List.filter_eq_self.2 (by simpa using hall), List.filter_cons_of_neg (by simpa using hend),
      List.filter_nil, List.append_nil]

lemma returnLines_eq_nil_iff : returnLines type fragments = ["\treturn nil"] ↔ fragments = [] := by
  cases fragments <;> simp [returnLines]

end Bodies

/-! ## The parts of a file -/

section File

variable (package : String) (schema : EntitySchema)

/-- The lines in front of the accessor of the fields. -/
def linesBeforeFields : List String :=
  ["package " ++ package, ""] ++ importLines schema ++ [""] ++ typeLines schema.name ++
    ["", "// Fields of " ++ schema.name ++ "."]

/-- The lines between the bodies of the accessors, but for the heads. -/
def linesBetween : List String := [r"}", "", "// Edges of " ++ schema.name ++ "."]

def fieldsBody : List String := returnLines "ent.Field" (schema.fields.map FieldDecl.text)

def edgesBody : List String := returnLines "ent.Edge" (schema.edges.map EdgeDecl.text)

lemma sourceLines_eq : sourceLines package schema =
    linesBeforeFields package schema ++ fieldsHead schema.name :: (fieldsBody schema ++
      (linesBetween schema ++ edgesHead schema.name :: (edgesBody schema ++ [r"}"]))) := by
  simp [sourceLines, accessorLines, linesBeforeFields, linesBetween, fieldsBody, edgesBody,
    fieldsHead, edgesHead, String.append_assoc]

/-- No line in front of the accessors opens like the head of one. -/
lemma opening_ne_of_mem_linesBeforeFields :
    ∀ line ∈ linesBeforeFields package schema, opening line ≠ ['f', 'u'] := by
  simp [linesBeforeFields, importLines, typeLines, opening, or_imp, forall_and]

lemma fieldsHead_ne_edgesHead (name : String) : fieldsHead name ≠ edgesHead name := by
  simp [fieldsHead, edgesHead, String.append_assoc]

lemma bodyBehind_fieldsHead (rest : List String) :
    bodyBehind (fieldsHead schema.name) (sourceLines package schema ++ rest) =
      fieldsBody schema := by
  have hbefore : ∀ line ∈ linesBeforeFields package schema, line ≠ fieldsHead schema.name :=
    fun line hline => ne_of_opening (by
      simpa [fieldsHead, opening] using opening_ne_of_mem_linesBeforeFields _ _ line hline)
  have hbody : ∀ line ∈ fieldsBody schema, line ≠ r"}" :=
    ne_of_mem_returnLines _ _ (by simp [opening])
  have hfound := bodyBehind_append ("" :: ("// Edges of " ++ schema.name ++ ".") ::
    edgesHead schema.name :: (edgesBody schema ++ [r"}"]) ++ rest) hbefore hbody
  rw [sourceLines_eq]
  simpa [linesBetween] using hfound

lemma bodyBehind_edgesHead (rest : List String) :
    bodyBehind (edgesHead schema.name) (sourceLines package schema ++ rest) =
      edgesBody schema := by
  have hedges : opening (edgesHead schema.name) = ['f', 'u'] := by simp [edgesHead, opening]
  have hbefore : ∀ line ∈ linesBeforeFields package schema ++ fieldsHead schema.name ::
      (fieldsBody schema ++ linesBetween schema), line ≠ edgesHead schema.name := by
    intro line hline
    rw [List.mem_append, List.mem_cons, List.mem_append] at hline
    rcases hline with hline | rfl | hline | hline
    · refine ne_of_opening ?_
      rw [hedges]
      exact opening_ne_of_mem_linesBeforeFields _ _ line hline
    · exact fieldsHead_ne_edgesHead schema.name
    · exact ne_of_mem_returnLines _ _ (by simp [hedges]) line hline
    · refine ne_of_opening ?_
      rw [hedges]
      revert line
      simp [linesBetween, opening]
  have hbody : ∀ line ∈ edgesBody schema, line ≠ r"}" :=
    ne_of_mem_returnLines _ _ (by simp [opening])
  have hfound := bodyBehind_append rest hbefore hbody
  rw [sourceLines_eq]
  simpa using hfound

/-- Only the imports open like imports. -/
lemma mem_sourceLines_iff {line : String} (h : opening line = ['\t', '"']) :
    line ∈ sourceLines package schema ↔ line ∈ importLines schema := by
  have hbody (type : String) (fragments : List String) : line ∉ returnLines type fragments := by
    intro hmem
    exact ne_of_mem_returnLines type fragments (by simp [h]) line hmem rfl
  have hother {other : String} (hopening : opening other ≠ ['\t', '"']) : line ≠ other := by
    rintro rfl
    exact hopening h
  have hschema : line ≠ "\tent.Schema" := hother (by decide)
  rw [sourceLines_eq]
  simp [linesBeforeFields, linesBetween, fieldsBody, edgesBody, typeLines, fieldsHead, edgesHead,
    hbody, hother, hschema, opening]

/-! ## Lines of the texts that are written as they come -/

/-- Whether the texts that a file is written with as they are hold no line feed. -/
def KeepsToLines : Prop :=
  ∀ raw ∈ package :: schema.rawTexts, AllChars (· ≠ '\n') raw

variable {package schema}

lemma ne_lineFeed_of_isPlain (c : Char) (h : IsPlain c) : c ≠ '\n' := by
  rintro rfl
  exact absurd h (by decide)

lemma allChars_quote_ne_lineFeed (text : String) : AllChars (· ≠ '\n') (Go.quote text) := by
  rintro c hc rfl
  rw [Go.toList_quote] at hc
  exact absurd (Go.isControl_of_mem_quoteChars hc) (by decide)

lemma KeepsToLines.line (h : KeepsToLines package schema) :
    ∀ line ∈ sourceLines package schema, AllChars (· ≠ '\n') line :=
  (allChars_sourceLines_iff ne_lineFeed_of_isPlain (by decide) package schema).2
    ⟨h, fun quoted _ => allChars_quote_ne_lineFeed quoted⟩

lemma linesOf_sourceText (h : KeepsToLines package schema) :
    linesOf (sourceText package schema) = sourceLines package schema ++ [""] :=
  linesOf_textOfLines h.line

end File

/-! ## The outline -/

/-- What a source file says about its package, its entity and its declarations. -/
structure Outline where
  package : String
  name : String
  fields : List String
  edges : List String
  deriving DecidableEq, Repr

/-- The outline of a source file: the type stands in the third line behind the imports, the
declarations between the heads of the accessors and the next closing braces. -/
def Outline.ofText (text : String) : Outline :=
  let lines := linesOf text
  let name := between "type " r" struct {" ((lines.dropWhile (· ≠ ")")).getD 3 "")
  ⟨between "package " "" (lines.headD ""), name,
    (declarationLines (fieldsHead name) lines).map (between "\t\t" ","),
    (declarationLines (edgesHead name) lines).map (between "\t\t" ",")⟩

section Outlines

variable {package : String} {schema : EntitySchema}

lemma declarationLines_fieldsHead (h : KeepsToLines package schema) :
    declarationLines (fieldsHead schema.name) (linesOf (sourceText package schema)) =
      schema.fields.map fun declaration => declarationLine declaration.text := by
  rw [declarationLines, linesOf_sourceText h, bodyBehind_fieldsHead, fieldsBody,
    filter_returnLines, List.map_map]
  rfl

lemma declarationLines_edgesHead (h : KeepsToLines package schema) :
    declarationLines (edgesHead schema.name) (linesOf (sourceText package schema)) =
      schema.edges.map fun edge => declarationLine edge.text := by
  rw [declarationLines, linesOf_sourceText h, bodyBehind_edgesHead, edgesBody,
    filter_returnLines, List.map_map]
  rfl

/-- The line of the type is the third one behind the imports. -/
lemma getD_dropWhile_sourceLines (package : String) (schema : EntitySchema) (rest : List String) :
    ((sourceLines package schema ++ rest).dropWhile (· ≠ ")")).getD 3 "" =
      "type " ++ schema.name ++ r" struct {" := by
  have hpackage : "package " ++ package ≠ ")" := ne_of_opening (by simp [opening])
  unfold sourceLines importLines typeLines
  split <;> split <;> simp [hpackage]

lemma ofText_sourceText (h : KeepsToLines package schema) :
    Outline.ofText (sourceText package schema) =
      ⟨package, schema.name, schema.fields.map FieldDecl.text,
        schema.edges.map EdgeDecl.text⟩ := by
  have hpackage : between "package " "" ((linesOf (sourceText package schema)).headD "") =
      package := by
    have hline := between_append "package " package ""
    rw [String.append_empty] at hline
    rw [linesOf_sourceText h]
    exact hline
  have hname : between "type " r" struct {"
      (((linesOf (sourceText package schema)).dropWhile (· ≠ ")")).getD 3 "") = schema.name := by
    rw [linesOf_sourceText h, getD_dropWhile_sourceLines, between_append]
  have hfragment (fragment : String) : between "\t\t" "," (declarationLine fragment) = fragment :=
    between_append "\t\t" fragment ","
  simp only [Outline.ofText, hpackage, hname, declarationLines_fieldsHead h,
    declarationLines_edgesHead h, List.map_map, Function.comp_def, hfragment]

/-- What can be read off the file of a schema. -/
structure ReadsBack (package : String) (schema : EntitySchema) : Prop where
  /-- The lines are those of the layout, one for each declaration. -/
  lines : linesOf (sourceText package schema) =
    ["package " ++ package, "", "import (", "\t\"entgo.io/ent\""] ++
      (if schema.edges = [] then [] else ["\t\"entgo.io/ent/schema/edge\""]) ++
      (if schema.fields = [] then [] else ["\t\"entgo.io/ent/schema/field\""]) ++
      [")", "",
        "// " ++ schema.name ++ " holds the schema definition for the " ++ schema.name ++
          " entity.",
        "type " ++ schema.name ++ r" struct {", "\tent.Schema", r"}", "",
        "// Fields of " ++ schema.name ++ ".",
        "func (" ++ schema.name ++ r") Fields() []ent.Field {"] ++
      (if schema.fields = [] then ["\treturn nil"]
        else ("\treturn " ++ r"[]ent.Field{") ::
          (schema.fields.map fun declaration => "\t\t" ++ declaration.text ++ ",") ++
            ["\t" ++ r"}"]) ++
      [r"}", "", "// Edges of " ++ schema.name ++ ".",
        "func (" ++ schema.name ++ r") Edges() []ent.Edge {"] ++
      (if schema.edges = [] then ["\treturn nil"]
        else ("\treturn " ++ r"[]ent.Edge{") ::
          (schema.edges.map fun edge => "\t\t" ++ edge.text ++ ",") ++
            ["\t" ++ r"}"]) ++
      [r"}", ""]
  /-- The declaration lines of the fields, as a reader finds them. -/
  fieldLines : declarationLines (fieldsHead schema.name) (linesOf (sourceText package schema)) =
    schema.fields.map fun declaration => "\t\t" ++ declaration.text ++ ","
  edgeLines : declarationLines (edgesHead schema.name) (linesOf (sourceText package schema)) =
    schema.edges.map fun edge => "\t\t" ++ edge.text ++ ","
  /-- The accessor of the fields returns nothing when there are none, and only then. -/
  noFields : bodyBehind (fieldsHead schema.name) (linesOf (sourceText package schema)) =
    ["\treturn nil"] ↔ schema.fields = []
  noEdges : bodyBehind (edgesHead schema.name) (linesOf (sourceText package schema)) =
    ["\treturn nil"] ↔ schema.edges = []
  /-- The builders of fields are imported when a line declares a field, and only then. -/
  fieldImport : "\t\"entgo.io/ent/schema/field\"" ∈ linesOf (sourceText package schema) ↔
    declarationLines (fieldsHead schema.name) (linesOf (sourceText package schema)) ≠ []
  edgeImport : "\t\"entgo.io/ent/schema/edge\"" ∈ linesOf (sourceText package schema) ↔
    declarationLines (edgesHead schema.name) (linesOf (sourceText package schema)) ≠ []
  /-- The outline of the file is that of the schema. -/
  outline : Outline.ofText (sourceText package schema) =
    ⟨package, schema.name, schema.fields.map FieldDecl.text, schema.edges.map EdgeDecl.text⟩

/-- **The file of a schema is read back.**  Whatever the names, enum values and text defaults hold,
line feeds and braces included, the lines of the file are those of the layout, its imports are the
ones it uses, and nothing else has the same text: the text tells the package, the name of the entity
and the fragments of its fields and edges. -/
theorem sourceText_readsBack (keeps : KeepsToLines package schema) :
    ReadsBack package schema ∧
    ∀ (package' : String) (schema' : EntitySchema), KeepsToLines package' schema' →
      sourceText package' schema' = sourceText package schema →
        package' = package ∧ schema'.name = schema.name ∧
        schema'.fields.map FieldDecl.text = schema.fields.map FieldDecl.text ∧
        schema'.edges.map EdgeDecl.text = schema.edges.map EdgeDecl.text := by
  have hfields := declarationLines_fieldsHead keeps
  have hedges := declarationLines_edgesHead keeps
  have hlines := linesOf_sourceText keeps
  refine ⟨⟨?_, hfields, hedges, ?_, ?_, ?_, ?_, ofText_sourceText keeps⟩, ?_⟩
  · rw [hlines]
    obtain ⟨name, fields, edges⟩ := schema
    cases fields <;> cases edges <;>
      simp [sourceLines, importLines, typeLines, accessorLines, returnLines, String.append_assoc,
        Function.comp_def]
  · rw [hlines, bodyBehind_fieldsHead, fieldsBody, returnLines_eq_nil_iff, List.map_eq_nil_iff]
  · rw [hlines, bodyBehind_edgesHead, edgesBody, returnLines_eq_nil_iff, List.map_eq_nil_iff]
  · rw [hfields, hlines, List.mem_append, mem_sourceLines_iff package schema (by decide)]
    simp [importLines]
  · rw [hedges, hlines, List.mem_append, mem_sourceLines_iff package schema (by decide)]
    simp [importLines]
  · intro package' schema' keeps' htext
    have houtline := congrArg Outline.ofText htext
    rw [ofText_sourceText keeps', ofText_sourceText keeps] at houtline
    simpa using houtline

end Outlines

/-- A schema whose names, values and defaults hold line feeds, braces and the heads of accessors. -/
def brokenNamesSchema : EntitySchema :=
  ⟨"Note",
    [.typed "String" ("body\n" ++ r"}" ++ "\n") none
        [.optional, .default (.string ("\n" ++ r"}" ++ "\n"))],
      .typed "Int" "rank" none [.default (.number "-1")],
      .enumeration r"}" ["A\n\t\tB,", ""] []],
    [⟨r"func (Note) Edges() []ent.Edge {" ++ "\n", "User"⟩]⟩

/-- Its file is read back all the same, and only its own outline is. -/
theorem brokenNamesSchema_readsBack :
    KeepsToLines "schema" brokenNamesSchema ∧ ReadsBack "schema" brokenNamesSchema ∧
    Outline.ofText (sourceText "schema" brokenNamesSchema) =
      ⟨"schema", "Note",
        [r#"field.String("body\n}\n").Optional().Default("\n}\n")"#,
          r#"field.Int("rank").Default(-1)"#,
          r#"field.Enum("}").Values("A\n\t\tB,","")"#],
        [r#"edge.To("func (Note) Edges() []ent.Edge {\n", User.Type)"#]⟩ ∧
    ∀ schema : EntitySchema, KeepsToLines "schema" schema →
      sourceText "schema" schema = sourceText "schema" brokenNamesSchema →
        schema.name = "Note" := by
  have hkeeps : KeepsToLines "schema" brokenNamesSchema := by
    unfold KeepsToLines brokenNamesSchema
    decide
  obtain ⟨hreads, honly⟩ := sourceText_readsBack hkeeps
  refine ⟨hkeeps, hreads, ?_, fun schema hschema htext => (honly _ schema hschema htext).2.1⟩
  rw [hreads.outline]
  decide

end EntSchema

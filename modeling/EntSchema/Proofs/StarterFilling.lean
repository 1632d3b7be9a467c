import EntSchema.Proofs.FilledPlaces
import EntSchema.Schema.SourceText
import EntSchema.Settings.Starter

/-!
# Filling the starter text

The three places of the starter text are filled one after another, so a value could be taken for a
later place.  Between quotes and in lines of its own a value is filled without the rest of the text
(`fillInTurn_textWith`), and then it only matters what the values hold.  When no value holds a mark
of another place, the result is the text with the three values at once (`text_eq_of_areApart`).
Paths in which no two opening braces stand side by side are of that kind (`text_eq`).
-/

namespace EntSchema

/-! ## Texts without marks -/

namespace Text

/-- Whether nowhere in a text two opening braces stand side by side. -/
def MarkFree (text : List Char) : Prop := ¬['{', '{'] <:+: text

instance (text : List Char) : Decidable (MarkFree text) :=
  inferInstanceAs (Decidable (¬_))

/-- Whether a text can mark a place in a line of settings: it starts with two braces, and it has
nothing that ends a line or means something between quotes. -/
structure IsMark (text : String) : Prop where
  braces : ['{', '{'] <+: text.toList
  feed : '\n' ∉ text.toList
  quote : '"' ∉ text.toList
  backslash : '\\' ∉ text.toList

/-- Whether all places have marks for lines of settings. -/
def AreMarked (places : List Place) : Prop := ∀ place ∈ places, IsMark place.mark

variable {places : List Place} {text : String}

lemma MarkFree.not_isIn {place : Place} (h : MarkFree text.toList) (hmark : IsMark place.mark) :
    ¬place.IsIn text :=
  fun hin => h (hmark.braces.isInfix.trans hin)

lemma MarkFree.fillAtOnce_eq (h : MarkFree text.toList) (hmarked : AreMarked places) :
    fillAtOnce places text = text :=
  fillAtOnce_eq_self fun place hplace => h.not_isIn (hmarked place hplace)

/-- Lines are filled one by one. -/
lemma fillAtOnce_textOfLines (hmarked : AreMarked places) (lines : List String) :
    fillAtOnce places (textOfLines lines) = textOfLines (lines.map (fillAtOnce places)) := by
  have hfeed : ∀ place ∈ places, '\n' ∉ place.mark.toList :=
    fun place hplace => (hmarked place hplace).feed
  rw [← String.toList_inj, fillAtOnce, String.toList_ofList]
  induction lines with
  | nil => simp [textOfLines]
  | cons line lines ih =>
    rw [List.map_cons, toList_textOfLines_cons, toList_textOfLines_cons,
      fillBehind_append_cons hfeed (Nat.zero_le _), ih, fillAtOnce, String.toList_ofList]

end Text

namespace Starter

open Text (Place MarkFree IsMark AreMarked AreApart AreDistinct fillAtOnce fillInTurn fillBehind
  fillBehind_append_cons)

/-! ## Parts of the text -/

variable {places : List Place}

/-- Between quotes a value is filled without the rest of its line. -/
lemma fillAtOnce_line (hmarked : AreMarked places) {name : String}
    (hname : MarkFree (name ++ " = ").toList) (value : String) :
    fillAtOnce places (line name value) = line name (fillAtOnce places value) := by
  have hquote : ∀ place ∈ places, '"' ∉ place.mark.toList :=
    fun place hplace => (hmarked place hplace).quote
  have hline (value : String) :
      (line name value).toList = (name ++ " = ").toList ++ '"' :: (value.toList ++ ['"']) := by
    simp [line]
  have hopening : fillBehind places 0 (name ++ " = ").toList = (name ++ " = ").toList := by
    have hself := congrArg String.toList (hname.fillAtOnce_eq hmarked)
    rwa [fillAtOnce, String.toList_ofList] at hself
  rw [← String.toList_inj, hline, fillAtOnce, String.toList_ofList, hline,
    fillBehind_append_cons hquote (Nat.zero_le _), fillBehind_append_cons hquote (Nat.zero_le _),
    hopening, fillAtOnce, String.toList_ofList, Text.fillBehind_nil]

lemma markFree_fixedLines :
    ∀ line ∈ headLines ++ runLines ++ packageLines ++ typesLines, MarkFree line.toList := by
  have hspelled {line : String} {chars : List Char} (hline : line = String.ofList chars)
      (h : MarkFree chars) : MarkFree line.toList := by
    rwa [hline, String.toList_ofList]
  simp only [headLines, runLines, packageLines, typesLines, List.cons_append, List.nil_append,
    List.forall_mem_cons, List.not_mem_nil, false_implies, implies_true, and_true]
  repeat' apply And.intro
  all_goals exact hspelled rfl (by decide +kernel)

lemma map_fillAtOnce_fixedLines (hmarked : AreMarked places) {lines : List String}
    (hsub : lines ⊆ headLines ++ runLines ++ packageLines ++ typesLines) :
    lines.map (fillAtOnce places) = lines := by
  have hsame : lines.map (fillAtOnce places) = lines.map id :=
    List.map_congr_left fun line hline =>
      (markFree_fixedLines line (hsub hline)).fillAtOnce_eq hmarked
  rw [hsame, List.map_id]

/-- Outside its three values nothing of the text is filled. -/
lemma fillAtOnce_textWith (hmarked : AreMarked places) (schema directory package : String) :
    fillAtOnce places (textWith schema directory package) =
      textWith (fillAtOnce places schema) (fillAtOnce places directory)
        (fillAtOnce places package) := by
  have hhead : headLines.map (fillAtOnce places) = headLines :=
    map_fillAtOnce_fixedLines hmarked fun _ h => by simp [h]
  have hrun : runLines.map (fillAtOnce places) = runLines :=
    map_fillAtOnce_fixedLines hmarked fun _ h => by simp [h]
  have hpackage : packageLines.map (fillAtOnce places) = packageLines :=
    map_fillAtOnce_fixedLines hmarked fun _ h => by simp [h]
  have htypes : typesLines.map (fillAtOnce places) = typesLines :=
    map_fillAtOnce_fixedLines hmarked fun _ h => by simp [h]
  rw [textWith, Text.fillAtOnce_textOfLines hmarked, linesWith]
  simp only [List.map_append, List.map_cons, hhead, hrun, hpackage, htypes]
  rw [fillAtOnce_line hmarked (by decide), fillAtOnce_line hmarked (by decide),
    fillAtOnce_line hmarked (by decide), textWith, linesWith]

lemma fillInTurn_textWith (hmarked : AreMarked places) (schema directory package : String) :
    fillInTurn places (textWith schema directory package) =
      textWith (fillInTurn places schema) (fillInTurn places directory)
        (fillInTurn places package) := by
  induction places generalizing schema directory package with
  | nil => simp only [Text.fillInTurn_nil]
  | cons place later ih =>
    obtain ⟨hplace, hlater⟩ := List.forall_mem_cons.1 hmarked
    have hsingle : AreMarked [place] := by simpa [AreMarked] using hplace
    simp only [Text.fillInTurn_cons, ← Text.fillAtOnce_singleton]
    rw [fillAtOnce_textWith hsingle, ih hlater]

/-! ## The three places -/

/-- The places of the text with something that goes there. -/
def placesWith (schema directory package : String) : List Place :=
  [⟨schemaMark, schema, by decide⟩, ⟨directoryMark, directory, by decide⟩,
    ⟨packageMark, package, by decide⟩]

/-- The places of the text with what goes there. -/
def writtenPlaces (options : StarterOptions) : List Place :=
  placesWith (escaped options.schema) (escaped options.output) (packageFor options.output)

/-- The text is filled place by place. -/
lemma text_eq_fillInTurn (options : StarterOptions) :
    text options = fillInTurn (writtenPlaces options) template := rfl

section Places

variable {schema directory package : String}

lemma isMark_mark {name : String} (hfeed : '\n' ∉ name.toList) (hquote : '"' ∉ name.toList)
    (hbackslash : '\\' ∉ name.toList) : IsMark (mark name) where
  braces := by simp [mark]
  feed := by simpa [mark] using hfeed
  quote := by simpa [mark] using hquote
  backslash := by simpa [mark] using hbackslash

lemma isMark_schemaMark : IsMark schemaMark :=
  isMark_mark (by decide) (by decide) (by decide)

lemma isMark_directoryMark : IsMark directoryMark :=
  isMark_mark (by decide) (by decide) (by decide)

lemma isMark_packageMark : IsMark packageMark :=
  isMark_mark (by decide) (by decide) (by decide)

lemma isMark_of_mem {place : Place} (h : place ∈ placesWith schema directory package) :
    IsMark place.mark := by
  simp only [placesWith, List.mem_cons, List.not_mem_nil, or_false] at h
  rcases h with rfl | rfl | rfl
  exacts [isMark_schemaMark, isMark_directoryMark, isMark_packageMark]

lemma areMarked_placesWith : AreMarked (placesWith schema directory package) :=
  fun _ hplace => isMark_of_mem hplace

lemma areDistinct_placesWith : AreDistinct (placesWith schema directory package) := by
  have hschemaDirectory : schemaMark ≠ directoryMark := by decide
  have hschemaPackage : schemaMark ≠ packageMark := by decide
  have hdirectoryPackage : directoryMark ≠ packageMark := by decide
  constructor
  case nodup => simp [placesWith, hschemaDirectory, hschemaPackage, hdirectoryPackage]
  case eq_of_isIn =>
    intro place hplace other hother hin
    simp only [placesWith, List.mem_cons, List.not_mem_nil, or_false] at hplace hother
    unfold Place.IsIn at hin
    rcases hplace with rfl | rfl | rfl <;> rcases hother with rfl | rfl | rfl <;>
      first
      | rfl
      | dsimp only at hin; exact absurd hin (by decide)

lemma fillAtOnce_template (schema directory package : String) :
    fillAtOnce (placesWith schema directory package) template =
      textWith schema directory package := by
  have hvalue (place : Place) (hplace : place ∈ placesWith schema directory package) :
      fillAtOnce (placesWith schema directory package) place.mark = place.value :=
    Text.fillAtOnce_mark areDistinct_placesWith hplace
  rw [template, fillAtOnce_textWith areMarked_placesWith,
    hvalue ⟨schemaMark, schema, by decide⟩ (by simp [placesWith]),
    hvalue ⟨directoryMark, directory, by decide⟩ (by simp [placesWith]),
    hvalue ⟨packageMark, package, by decide⟩ (by simp [placesWith])]

end Places

/-! ## Escaped values -/

/-- An escape starts with a backslash; everything else is written as it is. -/
lemma escapeChar_cases (c : Char) :
    (c = '\\' ∨ c = '"') ∧ escapeChar c = ['\\', c] ∨
      (c ≠ '\\' ∧ c ≠ '"') ∧ escapeChar c = [c] := by
  unfold escapeChar
  split_ifs with hbackslash hquote
  · exact .inl ⟨.inl hbackslash, by rw [hbackslash]⟩
  · exact .inl ⟨.inr hquote, by rw [hquote]⟩
  · exact .inr ⟨⟨hbackslash, hquote⟩, rfl⟩

section Escaping

variable {pattern text : List Char}

lemma flatMap_escapeChar_eq_self (hbackslash : '\\' ∉ text)
    (hquote : '"' ∉ text) : text.flatMap escapeChar = text := by
  induction text with
  | nil => rfl
  | cons c rest ih =>
    rw [List.mem_cons, not_or] at hbackslash hquote
    have hc : escapeChar c = [c] := by
      rw [escapeChar, if_neg (Ne.symm hbackslash.1), if_neg (Ne.symm hquote.1)]
    rw [List.flatMap_cons, hc, ih hbackslash.2 hquote.2]
    rfl

lemma prefix_flatMap_escapeChar_iff (hbackslash : '\\' ∉ pattern) (hquote : '"' ∉ pattern) :
    pattern <+: text.flatMap escapeChar ↔ pattern <+: text := by
  induction text generalizing pattern with
  | nil => rfl
  | cons c rest ih =>
    cases pattern with
    | nil => simp
    | cons d pattern =>
      have hd : d ≠ '\\' ∧ d ≠ '"' := by
        constructor <;> rintro rfl <;> simp at hbackslash hquote
      have hrest := ih (fun hmem => hbackslash (List.mem_cons_of_mem _ hmem))
        (fun hmem => hquote (List.mem_cons_of_mem _ hmem))
      rw [List.flatMap_cons]
      rcases escapeChar_cases c with ⟨hc, heq⟩ | ⟨-, heq⟩
      · have hdc : d ≠ c := by
          rcases hc with rfl | rfl
          exacts [hd.1, hd.2]
        simp [heq, List.cons_prefix_cons, hd.1, hdc]
      · rw [heq, List.singleton_append, List.cons_prefix_cons, List.cons_prefix_cons, hrest]

/-- Escapes are written without any character of a mark. -/
lemma infix_flatMap_escapeChar_iff (hne : pattern ≠ []) (hbackslash : '\\' ∉ pattern)
    (hquote : '"' ∉ pattern) : pattern <:+: text.flatMap escapeChar ↔ pattern <:+: text := by
  induction text with
  | nil => rfl
  | cons c rest ih =>
    rw [List.infix_cons_iff, ← prefix_flatMap_escapeChar_iff hbackslash hquote, ← ih,
      List.flatMap_cons]
    rcases escapeChar_cases c with ⟨hc, heq⟩ | ⟨-, heq⟩
    · obtain ⟨d, more, rfl⟩ := List.exists_cons_of_ne_nil hne
      have hd : d ≠ '\\' ∧ d ≠ c := by
        constructor
        · rintro rfl
          simp at hbackslash
        · rintro rfl
          rcases hc with rfl | rfl <;> simp at hbackslash hquote
      simp [heq, List.infix_cons_iff, List.cons_prefix_cons, hd.1, hd.2]
    · rw [heq, List.singleton_append, List.infix_cons_iff]

end Escaping

lemma escaped_eq_self {text : String} (hbackslash : '\\' ∉ text.toList)
    (hquote : '"' ∉ text.toList) : escaped ⟨text⟩ = text := by
  rw [escaped, flatMap_escapeChar_eq_self hbackslash hquote, String.ofList_toList]

lemma isIn_escaped_iff {place : Place} (hmark : IsMark place.mark) {path : Path} :
    place.IsIn (escaped path) ↔ place.IsIn path.text := by
  unfold Place.IsIn
  rw [escaped, String.toList_ofList,
    infix_flatMap_escapeChar_iff place.toList_mark_ne_nil hmark.backslash hmark.quote]

/-! ## The package -/

lemma isIdentifier_packageFor (directory : Path) :
    Go.isIdentifier (packageFor directory) = true := by
  have hstandard : Go.isIdentifier OutputSettings.standard.package = true := by decide
  unfold packageFor
  split
  · split_ifs with hname
    · exact hname
    · exact hstandard
  · exact hstandard

lemma continuesIdentifier_of_isIdentifier {name : String} (h : Go.isIdentifier name = true) :
    ∀ c ∈ name.toList, Go.continuesIdentifier c = true := by
  rw [Go.isIdentifier, Bool.and_eq_true] at h
  have hform := h.1
  cases hname : name.toList with
  | nil => simp
  | cons first rest =>
    rw [hname, Go.hasIdentifierForm, Bool.and_eq_true, List.all_eq_true] at hform
    refine List.forall_mem_cons.2 ⟨?_, hform.2⟩
    have hfirst := hform.1
    simp only [Go.startsIdentifier, Bool.or_eq_true] at hfirst
    simp only [Go.continuesIdentifier, Text.isAlphanumeric, Bool.or_eq_true]
    tauto

lemma markFree_packageFor (directory : Path) : MarkFree (packageFor directory).toList := by
  intro hbraces
  have hbrace : '{' ∈ (packageFor directory).toList := hbraces.subset List.mem_cons_self
  have hidentifier := isIdentifier_packageFor directory
  have hcontinues := continuesIdentifier_of_isIdentifier hidentifier _ hbrace
  exact absurd hcontinues (by decide +kernel)

/-! ## Values that are kept apart -/

/-- Where no value holds a mark of another place, the values stand in the text as they are. -/
lemma text_eq_of_areApart {options : StarterOptions} (h : AreApart (writtenPlaces options)) :
    text options = textWith (escaped options.schema) (escaped options.output)
      (packageFor options.output) := by
  have hturn := (Text.fillInTurn_mark_iff areDistinct_placesWith).2 h _ (List.Perm.refl _)
  rw [text_eq_fillInTurn, template, writtenPlaces, fillInTurn_textWith areMarked_placesWith,
    hturn ⟨schemaMark, escaped options.schema, by decide⟩ (by simp [placesWith]),
    hturn ⟨directoryMark, escaped options.output, by decide⟩ (by simp [placesWith]),
    hturn ⟨packageMark, packageFor options.output, by decide⟩ (by simp [placesWith])]

/-- Values without marks are filled in as they are. -/
lemma text_eq {options : StarterOptions} (hschema : MarkFree options.schema.text.toList)
    (houtput : MarkFree options.output.text.toList) :
    text options = textWith (escaped options.schema) (escaped options.output)
      (packageFor options.output) := by
  refine text_eq_of_areApart fun place hplace other hother _ hin => ?_
  have hmark := isMark_of_mem hother
  simp only [writtenPlaces, placesWith, List.mem_cons, List.not_mem_nil, or_false] at hplace
  rcases hplace with rfl | rfl | rfl
  · exact absurd ((isIn_escaped_iff hmark).1 hin) (hschema.not_isIn hmark)
  · exact absurd ((isIn_escaped_iff hmark).1 hin) (houtput.not_isIn hmark)
  · exact absurd hin ((markFree_packageFor options.output).not_isIn hmark)

end Starter

end EntSchema

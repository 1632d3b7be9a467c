import EntSchema.Proofs.StarterReading
import EntSchema.Proofs.UniqueDecoding

/-!
# Values that hold marks

The paths of the starter settings may hold anything, marks included.  What stands in the place of a
path is then the path with the marks of the later places filled in turn.  Escaping does not touch
marks, so it makes no difference whether a value is escaped before it is filled or afterwards
(`fillInTurn_escaped`), and escaped values can be told apart where they stand (`textWith_inj`).

The main result, `places_filled_at_once_iff`, says when filling the places in turn is the same as
filling all of them at once, and which settings are written when it is not.
-/

namespace EntSchema.Starter

open Text (Place IsMark AreMarked AreApart fillAtOnce fillInTurn replaceBehind)
open Toml (isPlain)

/-! ## Filling and escaping -/

section Escaping

variable {pattern replacement : List Char}

/-- Escaping what a pattern is replaced by comes to the same as escaping afterwards. -/
lemma replaceBehind_flatMap_escapeChar (hne : pattern ≠ []) (hbackslash : '\\' ∉ pattern)
    (hquote : '"' ∉ pattern) (skipped : Nat) (text : List Char) :
    replaceBehind pattern (replacement.flatMap escapeChar) 0
        ((text.drop skipped).flatMap escapeChar) =
      (replaceBehind pattern replacement skipped text).flatMap escapeChar := by
  have hpass {c : Char} (hc : c ∉ pattern) (rest : List Char) :
      replaceBehind pattern (replacement.flatMap escapeChar) 0 (c :: rest) =
        c :: replaceBehind pattern (replacement.flatMap escapeChar) 0 rest := by
    rw [replaceBehind, if_neg]
    rw [List.isPrefixOf_iff_prefix]
    obtain ⟨d, more, rfl⟩ := List.exists_cons_of_ne_nil hne
    intro hmark
    exact hc (by simp [(List.cons_prefix_cons.1 hmark).1])
  fun_induction replaceBehind pattern replacement skipped text with
  | case1 => simp
  | case2 skipped c rest ih => simpa using ih
  | case3 c rest hmark ih =>
    have hstarts := List.isPrefixOf_iff_prefix.1 hmark
    rw [List.drop_zero, ← Text.append_drop_of_starts hne hstarts, List.flatMap_append,
      flatMap_escapeChar_eq_self hbackslash hquote, Text.replaceBehind_pattern hne,
      List.flatMap_append, ← ih]
  | case4 c rest hmark ih =>
    rw [List.drop_zero] at ih ⊢
    rw [List.flatMap_cons, List.flatMap_cons, ← ih]
    rcases escapeChar_cases c with ⟨hc, heq⟩ | ⟨-, heq⟩
    · have hfree : c ∉ pattern := by
        rcases hc with rfl | rfl
        exacts [hbackslash, hquote]
      rw [heq, List.cons_append, List.singleton_append, hpass hbackslash, hpass hfree]
      rfl
    · have hnot : ¬pattern <+: c :: rest.flatMap escapeChar := by
        rw [List.isPrefixOf_iff_prefix,
          ← prefix_flatMap_escapeChar_iff hbackslash hquote, List.flatMap_cons, heq] at hmark
        exact hmark
      rw [heq, List.singleton_append, replaceBehind, if_neg (by simpa using hnot)]
      rfl

lemma decodesUniquely_escapeChar :
    DecodesUniquely (fun _ => True) (fun _ => True) escapeChar := by
  intro c d rest more _ _ _ _ h
  rcases escapeChar_cases c with ⟨-, hc⟩ | ⟨⟨hbackslash, -⟩, hc⟩ <;>
    rcases escapeChar_cases d with ⟨-, hd⟩ | ⟨⟨hbackslash', -⟩, hd⟩ <;>
    rw [hc, hd] at h
  · simpa using h
  · exact absurd (List.cons.inj h).1.symm hbackslash'
  · exact absurd (List.cons.inj h).1 hbackslash
  · simpa using h

/-- A quote that is not escaped ends an escaped text. -/
lemma decodesUniquely_flatMap_escapeChar :
    DecodesUniquely (fun text : List Char => ∀ c ∈ text, True) (·.head? = some '"')
      (List.flatMap escapeChar) := by
  refine decodesUniquely_escapeChar.flatMap fun c rest hquote => ?_
  rcases escapeChar_cases c with ⟨-, heq⟩ | ⟨⟨-, hc⟩, heq⟩ <;> rw [heq] at hquote
  · simp at hquote
  · exact hc (by simpa using hquote)

end Escaping

lemma escaped_injective : Function.Injective fun text : String => escaped ⟨text⟩ := by
  intro text other h
  have hchars : text.toList.flatMap escapeChar = other.toList.flatMap escapeChar := by
    simpa [escaped] using congrArg String.toList h
  have hquoted : text.toList.flatMap escapeChar ++ ['"'] =
      other.toList.flatMap escapeChar ++ ['"'] := by rw [hchars]
  have hsame := decodesUniquely_flatMap_escapeChar (by simp) (by simp) rfl rfl hquoted
  exact String.toList_inj.1 hsame.1

lemma escaped_mark {text : String} (h : IsMark text) : escaped ⟨text⟩ = text :=
  escaped_eq_self h.backslash h.quote

/-- A place with its value escaped. -/
def escapedPlace (place : Place) : Place :=
  ⟨place.mark, escaped ⟨place.value⟩, place.marked⟩

lemma escapedPlace_injective : Function.Injective escapedPlace := by
  rintro ⟨mark, value, marked⟩ ⟨mark', value', marked'⟩ h
  obtain ⟨hmark, hvalue⟩ : mark = mark' ∧ escaped ⟨value⟩ = escaped ⟨value'⟩ := by
    simpa [escapedPlace] using h
  obtain rfl := escaped_injective hvalue
  simp [hmark]

lemma fill_escaped {place : Place} (hmark : IsMark place.mark) (text : String) :
    (escapedPlace place).fill (escaped ⟨text⟩) = escaped ⟨place.fill text⟩ := by
  have hchars : replaceBehind place.mark.toList (place.value.toList.flatMap escapeChar) 0
      (text.toList.flatMap escapeChar) =
        (replaceBehind place.mark.toList place.value.toList 0 text.toList).flatMap escapeChar :=
    replaceBehind_flatMap_escapeChar place.toList_mark_ne_nil hmark.backslash hmark.quote 0 _
  rw [← String.toList_inj]
  simp [Place.fill, Text.replaceAll, escapedPlace, escaped, hchars]

/-- It makes no difference whether values are escaped before they are filled or afterwards. -/
lemma fillInTurn_escaped {places : List Place} (hmarked : AreMarked places) (text : String) :
    fillInTurn (places.map escapedPlace) (escaped ⟨text⟩) = escaped ⟨fillInTurn places text⟩ := by
  induction places generalizing text with
  | nil => rfl
  | cons place later ih =>
    obtain ⟨hplace, hlater⟩ := List.forall_mem_cons.1 hmarked
    rw [List.map_cons, Text.fillInTurn_cons, fill_escaped hplace, ih hlater,
      Text.fillInTurn_cons]

lemma areApart_map_escapedPlace {places : List Place} (hmarked : AreMarked places) :
    AreApart (places.map escapedPlace) ↔ AreApart places := by
  unfold AreApart
  simp only [List.forall_mem_map]
  refine forall₂_congr fun place _ => forall₂_congr fun other hother => ?_
  have hmark := hmarked other hother
  have hvalue : (escapedPlace other).value = (escapedPlace other).mark ↔
      other.value = other.mark := by
    have hself : (escapedPlace other).value = (escapedPlace other).mark ↔
        escaped ⟨other.value⟩ = escaped ⟨other.mark⟩ := by
      rw [escaped_mark hmark]
      rfl
    rw [hself]
    exact escaped_injective.eq_iff
  have hin : (escapedPlace other).IsIn (escapedPlace place).value ↔ other.IsIn place.value :=
    @isIn_escaped_iff other hmark ⟨place.value⟩
  rw [escapedPlace_injective.ne_iff, hin, hvalue]

/-! ## Telling values apart -/

/-- Whether a text is an escaped one. -/
def IsEscaped (text : String) : Prop := ∃ path : Path, text = escaped path

lemma toList_textOfLines_line (lines : List String) (name value : String) (later : List String) :
    (textOfLines (lines ++ line name value :: later)).toList =
      ((textOfLines lines).toList ++ (name ++ " = \"").toList) ++
        (value.toList ++ '"' :: '\n' :: (textOfLines later).toList) := by
  simp [textOfLines, String.toList_join, line]

/-- Escaped values are seen in the lines where they stand. -/
lemma textOfLines_line_inj {lines : List String} {name value value' : String}
    {later later' : List String} (hvalue : IsEscaped value) (hvalue' : IsEscaped value')
    (h : textOfLines (lines ++ line name value :: later) =
      textOfLines (lines ++ line name value' :: later')) :
    value = value' ∧ textOfLines later = textOfLines later' := by
  obtain ⟨path, rfl⟩ := hvalue
  obtain ⟨path', rfl⟩ := hvalue'
  have hchars := congrArg String.toList h
  rw [toList_textOfLines_line, toList_textOfLines_line, List.append_right_inj] at hchars
  simp only [escaped, String.toList_ofList] at hchars
  obtain ⟨htext, hbehind⟩ :=
    decodesUniquely_flatMap_escapeChar (by simp) (by simp) rfl rfl hchars
  have hlater : (textOfLines later).toList = (textOfLines later').toList := by
    simpa using hbehind
  exact ⟨by rw [escaped, escaped, htext], String.toList_inj.1 hlater⟩

lemma textWith_inj {schema directory package schema' directory' package' : String}
    (hvalues : IsEscaped schema ∧ IsEscaped directory ∧ IsEscaped package)
    (hvalues' : IsEscaped schema' ∧ IsEscaped directory' ∧ IsEscaped package')
    (h : textWith schema directory package = textWith schema' directory' package') :
    schema = schema' ∧ directory = directory' ∧ package = package' := by
  rw [textWith, textWith, linesWith, linesWith] at h
  obtain ⟨hschema, hrun⟩ := textOfLines_line_inj hvalues.1 hvalues'.1 h
  obtain ⟨hdirectory, hbehind⟩ := textOfLines_line_inj hvalues.2.1 hvalues'.2.1 hrun
  obtain ⟨hpackage, -⟩ := textOfLines_line_inj hvalues.2.2 hvalues'.2.2 hbehind
  exact ⟨hschema, hdirectory, hpackage⟩

lemma isEscaped_fillInTurn {order places : List Place} (hmarked : AreMarked places)
    (hsub : order ⊆ places.map escapedPlace) {text : String} (htext : IsEscaped text) :
    IsEscaped (fillInTurn order text) := by
  induction order generalizing text with
  | nil => exact htext
  | cons place later ih =>
    obtain ⟨hplace, hlater⟩ := List.cons_subset.1 hsub
    obtain ⟨given, hgiven, rfl⟩ := List.mem_map.1 hplace
    obtain ⟨path, rfl⟩ := htext
    rw [Text.fillInTurn_cons, fill_escaped (hmarked given hgiven)]
    exact ih hlater ⟨_, rfl⟩

/-! ## The places of the starter text -/

variable {options : StarterOptions}

/-- The places of the text with the values as they are given. -/
def givenPlaces (options : StarterOptions) : List Place :=
  placesWith options.schema.text options.output.text (packageFor options.output)

lemma isPlain_of_mem_packageFor {directory : Path} {c : Char}
    (h : c ∈ (packageFor directory).toList) : isPlain c = true ∧ c ≠ '\\' ∧ c ≠ '"' :=
  isPlain_of_continuesIdentifier
    (continuesIdentifier_of_isIdentifier (isIdentifier_packageFor directory) c h)

lemma escaped_packageFor (directory : Path) :
    escaped ⟨packageFor directory⟩ = packageFor directory :=
  escaped_eq_self (fun hc => (isPlain_of_mem_packageFor hc).2.1 rfl)
    (fun hc => (isPlain_of_mem_packageFor hc).2.2 rfl)

lemma writtenPlaces_eq (options : StarterOptions) :
    writtenPlaces options = (givenPlaces options).map escapedPlace := by
  simp [writtenPlaces, givenPlaces, placesWith, escapedPlace, escaped_packageFor]

/-- The document that the text names: the later places are filled in the path that was given. -/
def filledSchema (options : StarterOptions) : Path :=
  ⟨fillInTurn ((givenPlaces options).drop 1) options.schema.text⟩

/-- The directory that the text names. -/
def filledOutput (options : StarterOptions) : Path :=
  ⟨fillInTurn ((givenPlaces options).drop 2) options.output.text⟩

lemma fillInTurn_givenPlaces (options : StarterOptions) :
    fillInTurn (givenPlaces options) schemaMark = (filledSchema options).text ∧
    fillInTurn (givenPlaces options) directoryMark = (filledOutput options).text ∧
    fillInTurn (givenPlaces options) packageMark = packageFor options.output := by
  have hdistinct : Text.AreDistinct (givenPlaces options) := areDistinct_placesWith
  exact ⟨Text.fillInTurn_mark [] hdistinct,
    Text.fillInTurn_mark ((givenPlaces options).take 1) hdistinct,
    Text.fillInTurn_mark ((givenPlaces options).take 2) hdistinct⟩

/-- **The starter text**, whatever its paths hold. -/
lemma text_eq_textWith (options : StarterOptions) :
    text options = textWith (escaped (filledSchema options)) (escaped (filledOutput options))
      (packageFor options.output) := by
  have hmarked : AreMarked (givenPlaces options) := areMarked_placesWith
  have hfilled {mark : String} (hmark : IsMark mark) : fillInTurn (writtenPlaces options) mark =
      escaped ⟨fillInTurn (givenPlaces options) mark⟩ := by
    conv_lhs => rw [writtenPlaces_eq, ← escaped_mark hmark, fillInTurn_escaped hmarked]
  obtain ⟨hschema, hdirectory, hpackage⟩ := fillInTurn_givenPlaces options
  have hmarked' : AreMarked (writtenPlaces options) := areMarked_placesWith
  rw [text_eq_fillInTurn, template, fillInTurn_textWith hmarked',
    hfilled isMark_schemaMark, hfilled isMark_directoryMark, hfilled isMark_packageMark, hschema,
    hdirectory, hpackage, escaped_packageFor]

/-! ## All at once -/

lemma fillAtOnce_writtenPlaces (options : StarterOptions) :
    fillAtOnce (writtenPlaces options) template =
      textWith (escaped options.schema) (escaped options.output) (packageFor options.output) :=
  fillAtOnce_template _ _ _

/-- The order of the places does not matter exactly when no path holds a mark of another place,
unless that mark stands for itself. -/
lemma fillInTurn_eq_fillAtOnce_iff (options : StarterOptions) :
    (∀ order, order.Perm (writtenPlaces options) →
      fillInTurn order template = fillAtOnce (writtenPlaces options) template) ↔
      AreApart (givenPlaces options) := by
  have hmarked : AreMarked (givenPlaces options) := areMarked_placesWith
  have hdistinct : Text.AreDistinct (writtenPlaces options) := areDistinct_placesWith
  rw [← areApart_map_escapedPlace hmarked, ← writtenPlaces_eq,
    ← Text.fillInTurn_mark_iff hdistinct]
  refine forall₂_congr fun order hperm => ?_
  have hmarked' : AreMarked order := fun place hplace =>
    isMark_of_mem (hperm.mem_iff.1 hplace)
  have hescaped {mark : String} (hmark : IsMark mark) : IsEscaped (fillInTurn order mark) := by
    refine isEscaped_fillInTurn hmarked (fun place hplace => ?_) ⟨⟨mark⟩, (escaped_mark hmark).symm⟩
    rw [← writtenPlaces_eq]
    exact hperm.mem_iff.1 hplace
  have hfilled : (∀ place ∈ writtenPlaces options, fillInTurn order place.mark = place.value) ↔
      fillInTurn order schemaMark = escaped options.schema ∧
      fillInTurn order directoryMark = escaped options.output ∧
      fillInTurn order packageMark = packageFor options.output := by
    simp [writtenPlaces, placesWith]
  rw [fillAtOnce_writtenPlaces, template, fillInTurn_textWith hmarked', hfilled]
  constructor
  · refine textWith_inj ⟨hescaped isMark_schemaMark, hescaped isMark_directoryMark,
      hescaped isMark_packageMark⟩ ⟨⟨_, rfl⟩, ⟨_, rfl⟩, ⟨⟨packageFor options.output⟩, ?_⟩⟩
    rw [escaped_packageFor]
  · rintro ⟨hschema, hdirectory, hpackage⟩
    rw [hschema, hdirectory, hpackage]

/-- The text is the one with all places filled at once when the paths that it names are the given
ones. -/
lemma text_eq_fillAtOnce_iff (options : StarterOptions) :
    text options = fillAtOnce (writtenPlaces options) template ↔
      filledSchema options = options.schema ∧ filledOutput options = options.output := by
  have hpackage : IsEscaped (packageFor options.output) :=
    ⟨⟨packageFor options.output⟩, (escaped_packageFor _).symm⟩
  rw [fillAtOnce_writtenPlaces, text_eq_textWith]
  constructor
  · intro h
    obtain ⟨hschema, hdirectory, -⟩ :=
      textWith_inj ⟨⟨_, rfl⟩, ⟨_, rfl⟩, hpackage⟩ ⟨⟨_, rfl⟩, ⟨_, rfl⟩, hpackage⟩ h
    exact ⟨congrArg Path.mk (escaped_injective hschema),
      congrArg Path.mk (escaped_injective hdirectory)⟩
  · rintro ⟨hschema, hdirectory⟩
    rw [hschema, hdirectory]

/-! ## The settings that are written -/

/-- The settings that the text stands for, whatever the paths hold. -/
lemma parse?_text_eq (options : StarterOptions)
    (hschema : ∀ c ∈ options.schema.text.toList, isPlain c = true)
    (houtput : ∀ c ∈ options.output.text.toList, isPlain c = true) :
    Settings.parse? (text options) = some { Settings.standard with
      schema := filledSchema options
      output := ⟨filledOutput options, packageFor options.output⟩ } := by
  have hplaces : ∀ place ∈ givenPlaces options, ∀ c ∈ place.value.toList, isPlain c = true := by
    simp only [givenPlaces, placesWith, List.forall_mem_cons, List.not_mem_nil, false_implies,
      implies_true, and_true]
    exact ⟨hschema, houtput, fun c hc => (isPlain_of_mem_packageFor hc).1⟩
  have hschema' : ∀ c ∈ (filledSchema options).text.toList, isPlain c = true :=
    Text.forall_mem_fillInTurn (fun place hplace => hplaces place (List.mem_of_mem_drop hplace))
      hschema
  have houtput' : ∀ c ∈ (filledOutput options).text.toList, isPlain c = true :=
    Text.forall_mem_fillInTurn (fun place hplace => hplaces place (List.mem_of_mem_drop hplace))
      houtput
  rw [Settings.parse?, text_eq_textWith,
    parse_textWith hschema' houtput' (isIdentifier_packageFor options.output)]
  rfl

/-- **The places of the starter text are filled as if all at once**, whatever their order, exactly
when neither path holds a mark of another place, unless that mark stands for itself.  Otherwise the
paths that the text names are the given ones with the marks in them filled. -/
theorem places_filled_at_once_iff (options : StarterOptions) :
    ((∀ order, order.Perm (writtenPlaces options) →
        fillInTurn order template = fillAtOnce (writtenPlaces options) template) ↔
      AreApart (givenPlaces options)) ∧
    (text options = fillAtOnce (writtenPlaces options) template ↔
      filledSchema options = options.schema ∧ filledOutput options = options.output) ∧
    (AreApart (givenPlaces options) →
      filledSchema options = options.schema ∧ filledOutput options = options.output) ∧
    ((∀ c ∈ options.schema.text.toList, isPlain c = true) →
      (∀ c ∈ options.output.text.toList, isPlain c = true) →
      Settings.parse? (text options) = some { Settings.standard with
        schema := filledSchema options
        output := ⟨filledOutput options, packageFor options.output⟩ }) := by
  have horder := fillInTurn_eq_fillAtOnce_iff options
  refine ⟨horder, text_eq_fillAtOnce_iff options, fun hapart => ?_, parse?_text_eq options⟩
  rw [← text_eq_fillAtOnce_iff, text_eq_fillInTurn]
  exact horder.2 hapart _ (List.Perm.refl _)

/-- Paths with marks of their own places, and half a mark. -/
def bracedOptions : StarterOptions :=
  ⟨⟨r#"{{schema}}/"{{pack/dmmf.json"#⟩, ⟨"{{output-dir}}/ent"⟩, false⟩

theorem bracedOptions_are_kept :
    AreApart (givenPlaces bracedOptions) ∧
    Settings.parse? (text bracedOptions) = some { Settings.standard with
      schema := bracedOptions.schema
      output := ⟨bracedOptions.output, "ent"⟩ } := by
  have hapart : AreApart (givenPlaces bracedOptions) := by decide +kernel
  have hpackage : packageFor bracedOptions.output = "ent" := by decide +kernel
  obtain ⟨-, -, hkept, hparse⟩ := places_filled_at_once_iff bracedOptions
  obtain ⟨hschema, houtput⟩ := hkept hapart
  have hplain : bracedOptions.schema.text.toList.all isPlain = true := by decide +kernel
  have hplain' : bracedOptions.output.text.toList.all isPlain = true := by decide +kernel
  have hread := hparse (List.all_eq_true.1 hplain) (List.all_eq_true.1 hplain')
  rw [hschema, houtput, hpackage] at hread
  exact ⟨hapart, hread⟩

/-- A path with the mark of a later place. -/
def markedOptions : StarterOptions :=
  ⟨⟨"{{package}}/dmmf.json"⟩, ⟨"ent/schema"⟩, false⟩

theorem markedOptions_are_not_kept :
    text markedOptions ≠ fillAtOnce (writtenPlaces markedOptions) template ∧
    Settings.parse? (text markedOptions) = some { Settings.standard with
      schema := ⟨"schema/dmmf.json"⟩ } := by
  have hschema : filledSchema markedOptions = ⟨"schema/dmmf.json"⟩ := by decide +kernel
  have houtput : filledOutput markedOptions = ⟨"ent/schema"⟩ := by decide +kernel
  have hpackage : packageFor markedOptions.output = "schema" := by decide +kernel
  have hplain : markedOptions.schema.text.toList.all isPlain = true := by decide +kernel
  have hplain' : markedOptions.output.text.toList.all isPlain = true := by decide +kernel
  have hread := parse?_text_eq markedOptions (List.all_eq_true.1 hplain)
    (List.all_eq_true.1 hplain')
  rw [hschema, houtput, hpackage] at hread
  refine ⟨?_, hread⟩
  rw [Ne, text_eq_fillAtOnce_iff, hschema]
  decide

end EntSchema.Starter

import EntSchema.Proofs.FragmentCharacters

/-!
# Fragments decode uniquely

The fragment of a declared field is put together without separators: names, values and text
defaults are quoted, builders, arguments and numbers are written as they come.  The main result,
`text_tells_declaration`, says that a fragment still tells its declaration, and where it ends, as
long as the unquoted texts keep to themselves: a builder is a word, an argument holds no closing
parenthesis, and a number is one of JSON.  So no name, value or text default is taken for a value,
a modifier or an argument.

`DecodesUniquely` is what is shown of every part: two texts of it, with anything behind them that
may follow, agree only when the parts do.  It holds of quoted text without any condition, and from
there on it is carried from the parts to the whole.
-/

namespace EntSchema

/-! ## Texts that tell their ends -/

/-- Whether the texts of valid things can be told from each other and from what follows them. -/
def DecodesUniquely {α : Type} (Valid : α → Prop) (Follows : List Char → Prop)
    (write : α → List Char) : Prop :=
  ∀ ⦃a b : α⦄ ⦃rest rest' : List Char⦄, Valid a → Valid b → Follows rest → Follows rest' →
    write a ++ rest = write b ++ rest' → a = b ∧ rest = rest'

section Parts

variable {α : Type} {Valid : α → Prop} {write : α → List Char}

/-- A text that does not hold the character behind it ends there. -/
lemma decodesUniquely_until (stop : Char) :
    DecodesUniquely (fun text : List Char => stop ∉ text) (·.head? = some stop) id := by
  intro a b rest rest' ha hb hrest hrest' h
  have hread : ∀ {text more : List Char}, stop ∉ text → more.head? = some stop →
      (text ++ more).takeWhile (· ≠ stop) = text := by
    intro text more htext hmore
    obtain ⟨more, rfl⟩ := List.head?_eq_some_iff.1 hmore
    have hbefore : ∀ c ∈ text, decide (c ≠ stop) = true := by
      intro c hc
      exact decide_eq_true fun heq => htext (heq ▸ hc)
    rw [List.takeWhile_append_of_pos hbefore]
    simp
  have hsame : a = b := by
    rw [← hread ha hrest, ← hread hb hrest']
    exact congrArg _ h
  subst hsame
  exact ⟨rfl, List.append_cancel_left h⟩

/-- Quoted text ends at its closing quote. -/
lemma decodesUniquely_quoteChars :
    DecodesUniquely (fun _ => True) (fun _ => True) Go.quoteChars := by
  intro a b rest rest' _ _ _ _ h
  have hscan := congrArg Go.scan h
  rw [Go.scan_quoteChars, Go.scan_quoteChars] at hscan
  simpa using hscan

/-- Texts that end by themselves may follow each other, up to something that none of them starts
like. -/
lemma DecodesUniquely.flatMap {Follows : List Char → Prop}
    (h : DecodesUniquely Valid (fun _ => True) write)
    (hstart : ∀ a rest, ¬Follows (write a ++ rest)) :
    DecodesUniquely (fun items : List α => ∀ a ∈ items, Valid a) Follows (List.flatMap write) := by
  intro items others rest rest' hitems hothers hrest hrest' heq
  induction items generalizing others with
  | nil =>
    cases others with
    | nil => exact ⟨rfl, heq⟩
    | cons b others =>
      rw [List.flatMap_nil, List.nil_append, List.flatMap_cons, List.append_assoc] at heq
      exact absurd (heq ▸ hrest) (hstart b _)
  | cons a items ih =>
    cases others with
    | nil =>
      rw [List.flatMap_nil, List.nil_append, List.flatMap_cons, List.append_assoc] at heq
      exact absurd (heq ▸ hrest') (hstart a _)
    | cons b others =>
      rw [List.forall_mem_cons] at hitems hothers
      rw [List.flatMap_cons, List.flatMap_cons, List.append_assoc, List.append_assoc] at heq
      obtain ⟨hfirst, hlater⟩ := h hitems.1 hothers.1 trivial trivial heq
      obtain ⟨hitems', hrests⟩ := ih hitems.2 hothers.2 hlater
      exact ⟨by rw [hfirst, hitems'], hrests⟩

end Parts

/-! ## Numbers of JSON -/

/-- Whether a text is made of decimal digits, at least one. -/
def IsDigits (text : List Char) : Prop :=
  text ≠ [] ∧ ∀ c ∈ text, c.isDigit = true

/-- Whether a text is a JSON number: perhaps a minus sign, digits without a superfluous zero in
front, then perhaps a point with digits behind it, and perhaps an exponent. -/
def IsNumberText (text : String) : Prop :=
  ∃ sign whole fraction exponent : List Char,
    text.toList = sign ++ whole ++ fraction ++ exponent ∧
    (sign = [] ∨ sign = ['-']) ∧
    IsDigits whole ∧ (whole.head? = some '0' → whole = ['0']) ∧
    (fraction = [] ∨ ∃ digits, fraction = '.' :: digits ∧ IsDigits digits) ∧
    (exponent = [] ∨ ∃ mark sign digits, exponent = mark :: sign ++ digits ∧
      (mark = 'e' ∨ mark = 'E') ∧ (sign = [] ∨ sign = ['+'] ∨ sign = ['-']) ∧ IsDigits digits)

section Numbers

variable {text : String} {c : Char}

lemma IsNumberText.exists_cons (h : IsNumberText text) :
    ∃ c rest, text.toList = c :: rest ∧ (c = '-' ∨ c.isDigit = true) := by
  obtain ⟨sign, whole, fraction, exponent, htext, hsign, ⟨hne, hdigits⟩, -⟩ := h
  obtain ⟨d, more, rfl⟩ := List.exists_cons_of_ne_nil hne
  obtain rfl | rfl := hsign
  · exact ⟨d, more ++ fraction ++ exponent, by simp [htext], .inr (hdigits d List.mem_cons_self)⟩
  · exact ⟨'-', d :: more ++ fraction ++ exponent, by simp [htext], .inl rfl⟩

/-- The characters of a number. -/
lemma IsNumberText.isDigit_or (h : IsNumberText text) (hc : c ∈ text.toList) :
    c.isDigit = true ∨ c ∈ ['-', '+', '.', 'e', 'E'] := by
  obtain ⟨sign, whole, fraction, exponent, htext, hsign, hwhole, -, hfraction, hexponent⟩ := h
  rw [htext, List.mem_append, List.mem_append, List.mem_append] at hc
  obtain ((hc | hc) | hc) | hc := hc
  · obtain rfl | rfl := hsign <;> simp_all
  · exact .inl (hwhole.2 c hc)
  · obtain rfl | ⟨digits, rfl, hdigits⟩ := hfraction
    · exact absurd hc List.not_mem_nil
    · obtain rfl | hc := List.mem_cons.1 hc
      · simp
      · exact .inl (hdigits.2 c hc)
  · obtain rfl | ⟨mark, sign, digits, rfl, hmark, hsign, hdigits⟩ := hexponent
    · exact absurd hc List.not_mem_nil
    · rw [List.cons_append, List.mem_cons, List.mem_append] at hc
      obtain rfl | hc | hc := hc
      · obtain rfl | rfl := hmark <;> simp
      · obtain rfl | rfl | rfl := hsign <;> simp_all
      · exact .inl (hdigits.2 c hc)

end Numbers

/-! ## Literals and modifiers -/

/-- Whether a literal that is a number is one of JSON. -/
def Literal.IsReadable : Literal → Prop
  | .number text => IsNumberText text
  | .bool _ | .string _ => True

def Modifier.IsReadable : Modifier → Prop
  | .optional => True
  | .default value => value.IsReadable

section Literals

variable {value other : Literal}

/-- Whether a literal is written without quotes. -/
def Literal.IsUnquoted : Literal → Prop
  | .string _ => False
  | .bool _ | .number _ => True

lemma Literal.exists_string_or (value : Literal) :
    (∃ text, value = .string text) ∨ value.IsUnquoted := by
  cases value <;> simp [IsUnquoted]

lemma Literal.IsUnquoted.exists_cons (h : value.IsUnquoted) (hreadable : value.IsReadable) :
    ∃ c rest, value.text.toList = c :: rest ∧ c ≠ '"' := by
  cases value with
  | string text => exact absurd h id
  | bool value => cases value <;> exact ⟨_, _, rfl, by decide⟩
  | number text =>
    obtain ⟨c, rest, htext, hc⟩ := IsNumberText.exists_cons hreadable
    refine ⟨c, rest, htext, ?_⟩
    rintro rfl
    exact absurd hc (by decide)

lemma Literal.IsUnquoted.notMem (h : value.IsUnquoted) (hreadable : value.IsReadable) :
    ')' ∉ value.text.toList := by
  cases value with
  | string text => exact absurd h id
  | bool value => cases value <;> decide
  | number text => exact fun hmem => absurd (IsNumberText.isDigit_or hreadable hmem) (by decide)

lemma Literal.IsUnquoted.text_inj (h : value.IsUnquoted) (h' : other.IsUnquoted)
    (hreadable : value.IsReadable) (hreadable' : other.IsReadable)
    (htext : value.text = other.text) : value = other := by
  -- No number starts with the letter of a truth value.
  have hnumber (text : String) (b : Bool) (hreadable : IsNumberText text)
      (htext : text = (Literal.bool b).text) : False := by
    obtain ⟨c, rest, hchars, hc⟩ := hreadable.exists_cons
    subst htext
    cases b
    all_goals
      obtain ⟨rfl, -⟩ := List.cons.inj hchars
      exact absurd hc (by decide)
  cases value with
  | string text => exact absurd h id
  | bool a =>
    cases other with
    | string text => exact absurd h' id
    | bool b => revert htext; cases a <;> cases b <;> decide
    | number text => exact (hnumber text a hreadable' htext.symm).elim
  | number text =>
    cases other with
    | string text => exact absurd h' id
    | bool b => exact (hnumber text b hreadable htext).elim
    | number other => exact congrArg _ htext

/-- A quoted literal is not taken for another one. -/
lemma Literal.IsUnquoted.ne_quote (h : value.IsUnquoted) (hreadable : value.IsReadable)
    (text : String) (rest rest' : List Char) :
    value.text.toList ++ rest ≠ (Literal.string text).text.toList ++ rest' := by
  obtain ⟨c, more, hchars, hc⟩ := h.exists_cons hreadable
  intro heq
  rw [hchars] at heq
  have hquote : (Literal.string text).text.toList = Go.quoteChars text.toList :=
    Go.toList_quote text
  rw [hquote] at heq
  exact hc (List.cons.inj heq).1

/-- A literal ends in front of a closing parenthesis. -/
lemma Literal.decodesUniquely :
    DecodesUniquely Literal.IsReadable (·.head? = some ')') (·.text.toList) := by
  intro value other rest rest' hvalue hother hrest hrest' heq
  obtain ⟨text, rfl⟩ | hunquoted := value.exists_string_or
  · obtain ⟨text', rfl⟩ | hunquoted' := other.exists_string_or
    · simp only [Literal.text, Go.toList_quote] at heq
      obtain ⟨htext, hrests⟩ := decodesUniquely_quoteChars trivial trivial trivial trivial heq
      exact ⟨by rw [String.toList_inj.1 htext], hrests⟩
    · exact absurd heq.symm (hunquoted'.ne_quote hother text rest' rest)
  · obtain ⟨text', rfl⟩ | hunquoted' := other.exists_string_or
    · exact absurd heq (hunquoted.ne_quote hvalue text' rest rest')
    · obtain ⟨htext, hrests⟩ := decodesUniquely_until ')' (hunquoted.notMem hvalue)
        (hunquoted'.notMem hother) hrest hrest' heq
      exact ⟨hunquoted.text_inj hunquoted' hvalue hother (String.toList_inj.1 htext), hrests⟩

end Literals

lemma Modifier.toList_text_default (value : Literal) :
    (Modifier.default value).text.toList = ".Default(".toList ++ value.text.toList ++ [')'] := by
  simp [Modifier.text]

lemma Modifier.decodesUniquely :
    DecodesUniquely Modifier.IsReadable (fun _ => True) (·.text.toList) := by
  intro modifier other rest rest' hmodifier hother _ _ heq
  cases modifier with
  | optional =>
    cases other with
    | optional => exact ⟨rfl, List.append_cancel_left heq⟩
    | default value => simp [Modifier.text] at heq
  | default value =>
    cases other with
    | optional => simp [Modifier.text] at heq
    | default value' =>
      simp only [toList_text_default, List.append_assoc] at heq
      obtain ⟨rfl, hclosed⟩ := Literal.decodesUniquely hmodifier hother rfl rfl
        (List.append_cancel_left heq)
      exact ⟨rfl, List.append_cancel_left hclosed⟩

/-- The text of a chain of modifiers. -/
def modifiersChars : List Modifier → List Char :=
  List.flatMap (·.text.toList)

/-- A chain of modifiers ends where no point follows. -/
lemma decodesUniquely_modifiers :
    DecodesUniquely (fun modifiers => ∀ modifier ∈ modifiers, modifier.IsReadable)
      (·.head? ≠ some '.') modifiersChars :=
  Modifier.decodesUniquely.flatMap fun modifier _ => by cases modifier <;> simp [Modifier.text]

/-! ## Values -/

/-- Values, quoted and with commas between them. -/
def valuesChars (values : List String) : List Char :=
  (",".intercalate (values.map Go.quote)).toList

/-- A value behind the first one. -/
def furtherValue (value : String) : List Char :=
  ',' :: Go.quoteChars value.toList

lemma valuesChars_cons (value : String) (values : List String) :
    valuesChars (value :: values) =
      Go.quoteChars value.toList ++ values.flatMap furtherValue := by
  induction values generalizing value with
  | nil => simp [valuesChars]
  | cons next rest ih =>
    have hnext := ih next
    unfold valuesChars at hnext ⊢
    rw [List.map_cons, List.map_cons, String.intercalate_cons_cons, String.toList_append,
      ← List.map_cons, hnext]
    simp [furtherValue]

lemma decodesUniquely_furtherValue :
    DecodesUniquely (fun _ => True) (fun _ => True) furtherValue := by
  intro value other rest rest' _ _ _ _ heq
  obtain ⟨hvalue, hrests⟩ := decodesUniquely_quoteChars trivial trivial trivial trivial
    (List.cons.inj heq).2
  exact ⟨String.toList_inj.1 hvalue, hrests⟩

/-- Values end at the closing parenthesis, also when there is none or an empty one. -/
lemma decodesUniquely_values :
    DecodesUniquely (fun _ => True) (·.head? = some ')') valuesChars := by
  intro values others rest rest' _ _ hrest hrest' heq
  have hquote (value : String) (values : List String) (more : List Char) :
      (valuesChars (value :: values) ++ more).head? = some '"' := by
    rw [valuesChars_cons]
    rfl
  have hne {more : List Char} (h : more.head? = some ')') : more.head? ≠ some ',' := by
    rw [h]
    decide
  cases values with
  | nil =>
    cases others with
    | nil => exact ⟨rfl, heq⟩
    | cons other others =>
      have hhead := (congrArg List.head? heq).trans (hquote other others rest')
      rw [valuesChars] at hhead
      simp [hrest] at hhead
  | cons value values =>
    cases others with
    | nil =>
      have hhead := (congrArg List.head? heq).symm.trans (hquote value values rest)
      rw [valuesChars] at hhead
      simp [hrest'] at hhead
    | cons other others =>
      rw [valuesChars_cons, valuesChars_cons, List.append_assoc, List.append_assoc] at heq
      obtain ⟨hfirst, hfurther⟩ :=
        decodesUniquely_quoteChars trivial trivial trivial trivial heq
      have hcommas : DecodesUniquely (fun values : List String => ∀ value ∈ values, True)
          (·.head? ≠ some ',') (List.flatMap furtherValue) :=
        decodesUniquely_furtherValue.flatMap fun _ _ hcomma => hcomma rfl
      obtain ⟨hvalues, hrests⟩ := hcommas (fun _ _ => trivial) (fun _ _ => trivial) (hne hrest)
        (hne hrest') hfurther
      exact ⟨by rw [String.toList_inj.1 hfirst, hvalues], hrests⟩

/-! ## Declarations -/

/-- Whether a text is made of ASCII letters, digits and underscores, at least one. -/
def IsWord (text : String) : Prop :=
  text ≠ "" ∧ AllChars (fun c => c.isAlphanum = true ∨ c = '_') text

instance (text : String) : Decidable (IsWord text) := inferInstanceAs (Decidable (_ ∧ _))

/-- Whether the unquoted texts of a declaration keep to themselves: the builder is a word, the
argument holds no closing parenthesis, and the numbers are numbers. -/
def FieldDecl.IsReadable : FieldDecl → Prop
  | .typed builder _ literal? modifiers =>
    IsWord builder ∧ (∀ literal ∈ literal?, AllChars (· ≠ ')') literal) ∧
      ∀ modifier ∈ modifiers, modifier.IsReadable
  | .enumeration _ _ modifiers => ∀ modifier ∈ modifiers, modifier.IsReadable

/-- The builder of a declaration. -/
def FieldDecl.builder : FieldDecl → String
  | .typed builder _ _ _ => builder
  | .enumeration _ _ _ => "Enum"

/-- What stands between the name and the values of an enum. -/
def valuesHead : String := ").Values("

/-- What stands behind the name in the call of a declaration. -/
def FieldDecl.behindName : FieldDecl → List Char
  | .typed _ _ none _ => [')']
  | .typed _ _ (some literal) _ => ',' :: ' ' :: (literal.toList ++ [')'])
  | .enumeration _ values _ => valuesHead.toList ++ (valuesChars values ++ [')'])

lemma FieldDecl.toList_text (declaration : FieldDecl) :
    declaration.text.toList = "field.".toList ++ (declaration.builder.toList ++
      '(' :: (Go.quoteChars declaration.name.toList ++
        (declaration.behindName ++ modifiersChars declaration.modifiers))) := by
  have hmodifiers : (String.join (declaration.modifiers.map Modifier.text)).toList =
      modifiersChars declaration.modifiers := by
    rw [String.toList_join, List.flatMap_map]
    rfl
  rw [text, String.toList_append, hmodifiers]
  unfold callText
  cases declaration with
  | typed builder name literal modifiers =>
    cases literal with
    | none => simp [FieldDecl.builder, FieldDecl.name, behindName]
    | some literal => simp [FieldDecl.builder, FieldDecl.name, behindName]
  | enumeration name values modifiers =>
    simp [FieldDecl.builder, FieldDecl.name, behindName, valuesHead, valuesChars]

section Declarations

variable {rest rest' : List Char}

/-- Modifiers and what follows them are not taken for the values of an enum. -/
lemma modifiersChars_ne_values (modifiers : List Modifier) (hrest : rest.head? ≠ some '.')
    (more : List Char) : ')' :: (modifiersChars modifiers ++ rest) ≠ valuesHead.toList ++ more := by
  intro heq
  have hsecond := congrArg (·[1]?) heq
  have hthird := congrArg (·[2]?) heq
  cases modifiers with
  | nil =>
    rw [List.head?_eq_getElem?] at hrest
    exact hrest (by simpa [modifiersChars, valuesHead] using hsecond)
  | cons modifier modifiers =>
    cases modifier <;> simp [modifiersChars, valuesHead, Modifier.text] at hthird

variable {a b : FieldDecl}

/-- With the builder and the name known, what stands behind the name tells the rest. -/
lemma FieldDecl.eq_of_behindName (ha : a.IsReadable) (hb : b.IsReadable)
    (hbuilder : a.builder = b.builder) (hname : a.name = b.name)
    (hrest : rest.head? ≠ some '.') (hrest' : rest'.head? ≠ some '.')
    (heq : a.behindName ++ (modifiersChars a.modifiers ++ rest) =
      b.behindName ++ (modifiersChars b.modifiers ++ rest')) : a = b ∧ rest = rest' := by
  match a, b with
  | .typed builder name none modifiers, .typed builder' name' none modifiers' =>
    obtain ⟨hmodifiers, hrests⟩ :=
      decodesUniquely_modifiers ha.2.2 hb.2.2 hrest hrest' (List.cons.inj heq).2
    obtain rfl : builder = builder' := hbuilder
    obtain rfl : name = name' := hname
    exact ⟨by rw [hmodifiers], hrests⟩
  | .typed builder name (some literal) modifiers,
    .typed builder' name' (some literal') modifiers' =>
    have hstop {literal : String} (h : AllChars (· ≠ ')') literal) : ')' ∉ literal.toList :=
      fun hmem => h ')' hmem rfl
    obtain ⟨-, hliteral, hmodifiers⟩ := ha
    obtain ⟨-, hliteral', hmodifiers'⟩ := hb
    simp only [behindName, List.cons_append, List.append_assoc] at heq
    obtain ⟨hsame, hbehind⟩ := decodesUniquely_until ')' (hstop (hliteral literal rfl))
      (hstop (hliteral' literal' rfl)) rfl rfl (List.cons.inj (List.cons.inj heq).2).2
    obtain ⟨hchain, hrests⟩ :=
      decodesUniquely_modifiers hmodifiers hmodifiers' hrest hrest' (List.cons.inj hbehind).2
    obtain rfl : builder = builder' := hbuilder
    obtain rfl : name = name' := hname
    exact ⟨by rw [String.toList_inj.1 hsame, hchain], hrests⟩
  | .enumeration name values modifiers, .enumeration name' values' modifiers' =>
    simp only [behindName, List.append_assoc] at heq
    obtain ⟨hvalues, hbehind⟩ :=
      decodesUniquely_values trivial trivial rfl rfl (List.append_cancel_left heq)
    obtain ⟨hchain, hrests⟩ :=
      decodesUniquely_modifiers ha hb hrest hrest' (List.cons.inj hbehind).2
    obtain rfl : name = name' := hname
    exact ⟨by rw [hvalues, hchain], hrests⟩
  -- A builder of a type may be called like that of an enum; only the values tell them apart.
  | .typed _ _ none modifiers, .enumeration _ values _ =>
    simp only [behindName, List.append_assoc] at heq
    exact absurd heq (modifiersChars_ne_values modifiers hrest _)
  | .enumeration _ values _, .typed _ _ none modifiers =>
    simp only [behindName, List.append_assoc] at heq
    exact absurd heq.symm (modifiersChars_ne_values modifiers hrest' _)
  | .typed _ _ none _, .typed _ _ (some _) _ | .typed _ _ (some _) _, .typed _ _ none _
  | .typed _ _ (some _) _, .enumeration _ _ _ | .enumeration _ _ _, .typed _ _ (some _) _ =>
    simp [behindName, valuesHead] at heq

lemma FieldDecl.IsReadable.notMem_builder (h : a.IsReadable) : '(' ∉ a.builder.toList := by
  cases a with
  | typed builder name literal? modifiers =>
    intro hmem
    exact absurd (h.1.2 '(' hmem) (by decide)
  | enumeration name values modifiers =>
    have henum : '(' ∉ "Enum".toList := by decide
    exact henum

/-- A fragment ends where no point follows, and tells its declaration. -/
lemma FieldDecl.decodesUniquely :
    DecodesUniquely FieldDecl.IsReadable (·.head? ≠ some '.') (·.text.toList) := by
  intro a b rest rest' ha hb hrest hrest' heq
  simp only [toList_text, List.append_assoc, List.cons_append] at heq
  obtain ⟨hbuilder, hcall⟩ := decodesUniquely_until '(' ha.notMem_builder hb.notMem_builder rfl rfl
    (List.append_cancel_left heq)
  obtain ⟨hname, hbehind⟩ := decodesUniquely_quoteChars trivial trivial trivial trivial
    (List.cons.inj hcall).2
  exact eq_of_behindName ha hb (String.toList_inj.1 hbuilder) (String.toList_inj.1 hname) hrest
    hrest' hbehind

/-- **A fragment tells its declaration.**  Whatever the names, values and text defaults hold, two
declarations have one text only when they are the same; and this goes on for longer texts: behind a
fragment anything may follow that does not go on with a point, and it still tells where it ends. -/
theorem text_tells_declaration (ha : a.IsReadable) (hb : b.IsReadable) :
    (a.text = b.text → a = b) ∧
    ∀ rest rest' : String, rest.toList.head? ≠ some '.' → rest'.toList.head? ≠ some '.' →
      a.text ++ rest = b.text ++ rest' → a = b ∧ rest = rest' := by
  have hlonger (rest rest' : String) (hrest : rest.toList.head? ≠ some '.')
      (hrest' : rest'.toList.head? ≠ some '.') (heq : a.text ++ rest = b.text ++ rest') :
      a = b ∧ rest = rest' := by
    have hchars := congrArg String.toList heq
    rw [String.toList_append, String.toList_append] at hchars
    obtain ⟨hsame, hrests⟩ := FieldDecl.decodesUniquely ha hb hrest hrest' hchars
    exact ⟨hsame, String.toList_inj.1 hrests⟩
  refine ⟨fun heq => ?_, hlonger⟩
  exact (hlonger "" "" (by decide) (by decide) (by rw [heq])).1

end Declarations

/-! A builder that is called like that of enums, with a name that looks like the end of a call and
an empty text among the values. -/

def disguisedDecl : FieldDecl :=
  .typed "Enum" "kind\").Values(\"A\",\"" none [.optional, .default (.string ").Optional()")]

def plainDecl : FieldDecl :=
  .enumeration "kind" ["A", ""] [.optional, .default (.number "-0.5e+10")]

theorem disguisedDecl_text_ne :
    disguisedDecl.IsReadable ∧ plainDecl.IsReadable ∧ disguisedDecl.text ≠ plainDecl.text := by
  have hdisguised : disguisedDecl.IsReadable :=
    ⟨by decide, by simp, by simp [Modifier.IsReadable, Literal.IsReadable]⟩
  have hnumber : IsNumberText "-0.5e+10" := by
    refine ⟨['-'], ['0'], ['.', '5'], ['e', '+', '1', '0'], rfl, .inr rfl, ?_, fun _ => rfl, ?_, ?_⟩
    · exact ⟨by decide, by simp⟩
    · exact .inr ⟨['5'], rfl, by decide, by simp⟩
    · exact .inr ⟨'e', ['+'], ['1', '0'], rfl, .inl rfl, .inr (.inl rfl), by decide, by simp⟩
  have hplain : plainDecl.IsReadable := by
    simp [plainDecl, FieldDecl.IsReadable, Modifier.IsReadable, Literal.IsReadable, hnumber]
  refine ⟨hdisguised, hplain, fun heq => ?_⟩
  exact absurd ((text_tells_declaration hdisguised hplain).1 heq) (by decide)

end EntSchema

import EntSchema.Go.StringLiteral
import Mathlib.Tactic.IntervalCases
import Mathlib.Tactic.SplitIfs

/-!
# Quoted text read back

Every name and every text default of a schema is written as a string literal.  The main result,
`scan_quote`, says that Go reads such a literal as the text it was made of, whatever that text holds
and whatever comes behind the literal.  It is put together from what the reader does with the escape
of one character (`scanBody_escape`).

That no control character is left in a literal (`isControl_of_mem_quoteChars`) is used on its own:
a literal never breaks the line that it stands on.
-/

namespace EntSchema.Go

/-! ## Hexadecimal digits -/

lemma hexValue?_hexDigit {value : Nat} (h : value < 16) :
    hexValue? (hexDigit value) = some value := by
  interval_cases value <;> rfl

lemma isControl_hexDigit {value : Nat} (h : value < 16) :
    isControl (hexDigit value) = false := by
  interval_cases value <;> rfl

lemma isControl_of_mem_fourHexDigits {code : Nat} {d : Char} (h : d ∈ fourHexDigits code) :
    isControl d = false := by
  have hdigit (value : Nat) : isControl (hexDigit (value % 16)) = false :=
    isControl_hexDigit (Nat.mod_lt value (by decide))
  simp only [fourHexDigits, List.mem_cons, List.not_mem_nil, or_false] at h
  rcases h with rfl | rfl | rfl | rfl
  all_goals exact hdigit _

lemma toNat_lt_of_isControl {c : Char} (h : isControl c = true) : c.toNat < 0xa0 := by
  simp [isControl] at h
  omega

/-- The digits of a code below 65536, weighed as the reader weighs them. -/
lemma weigh_fourHexDigits {code : Nat} (h : code < 65536) :
    ((code / 4096 % 16 * 16 + code / 256 % 16) * 16 + code / 16 % 16) * 16 + code % 16 = code := by
  omega

/-! ## One character -/

lemma scanBody_hexEscape {c : Char} (h : isControl c = true) (rest : List Char) :
    scanBody ('\\' :: 'u' :: fourHexDigits c.toNat ++ rest) =
      (scanBody rest).map fun (text, after) => (c :: text, after) := by
  have hbound : c.toNat < 65536 := (toNat_lt_of_isControl h).trans (by decide)
  have hweigh := weigh_fourHexDigits hbound
  have hdigit (place : Nat) :
      hexValue? (hexDigit (c.toNat / place % 16)) = some (c.toNat / place % 16) :=
    hexValue?_hexDigit (Nat.mod_lt _ (by decide))
  have hlast : hexValue? (hexDigit (c.toNat % 16)) = some (c.toNat % 16) :=
    hexValue?_hexDigit (Nat.mod_lt _ (by decide))
  have hvalid : c.toNat.isValidChar := c.valid
  simp only [fourHexDigits, List.cons_append, List.nil_append, scanBody, hdigit, hlast, hweigh]
  rw [if_pos hvalid, Char.ofNat_toNat]

/-- A character that means nothing to the reader stands for itself. -/
lemma scanBody_cons {c : Char} (hquote : c ≠ '"') (hbackslash : c ≠ '\\') (hfeed : c ≠ '\n')
    (rest : List Char) :
    scanBody (c :: rest) = (scanBody rest).map fun (text, after) => (c :: text, after) := by
  rw [scanBody.eq_def]
  split <;> simp_all

/-- **One character.**  The reader takes the escape of a character for that character, also when
what follows could go on with an escape. -/
lemma scanBody_escape (c : Char) (rest : List Char) :
    scanBody (escape c ++ rest) =
      (scanBody rest).map fun (text, after) => (c :: text, after) := by
  unfold escape
  split_ifs with hquote hbackslash hfeed hreturn htab hcontrol
  · subst hquote; rfl
  · subst hbackslash; rfl
  · subst hfeed; rfl
  · subst hreturn; rfl
  · subst htab; rfl
  · exact scanBody_hexEscape hcontrol rest
  · exact scanBody_cons hquote hbackslash hfeed rest

lemma isControl_of_mem_escape {c d : Char} (h : d ∈ escape c) : isControl d = false := by
  have hshort (a b : Char) (ha : isControl a = false) (hb : isControl b = false)
      (hmem : d ∈ [a, b]) : isControl d = false := by
    rcases List.mem_cons.1 hmem with rfl | hlast
    · exact ha
    · rwa [List.mem_singleton.1 hlast]
  unfold escape at h
  split_ifs at h with hquote hbackslash hfeed hreturn htab hcontrol
  · exact hshort _ _ rfl rfl h
  · exact hshort _ _ rfl rfl h
  · exact hshort _ _ rfl rfl h
  · exact hshort _ _ rfl rfl h
  · exact hshort _ _ rfl rfl h
  · rcases List.mem_cons.1 h with rfl | h
    · rfl
    · rcases List.mem_cons.1 h with rfl | hdigit
      · rfl
      · exact isControl_of_mem_fourHexDigits hdigit
  · rw [List.mem_singleton.1 h]
    exact Bool.eq_false_iff.2 hcontrol

/-! ## Whole literals -/

lemma scan_quoteChars (text rest : List Char) :
    scan (quoteChars text ++ rest) = some (text, rest) := by
  have hbody : scanBody (text.flatMap escape ++ '"' :: rest) = some (text, rest) := by
    induction text with
    | nil => rfl
    | cons c text ih =>
      rw [List.flatMap_cons, List.append_assoc, scanBody_escape, ih, Option.map_some]
  rw [quoteChars, List.cons_append, List.append_assoc]
  exact hbody

lemma isControl_of_mem_quoteChars {text : List Char} {c : Char} (h : c ∈ quoteChars text) :
    isControl c = false := by
  rw [quoteChars, List.mem_cons, List.mem_append, List.mem_flatMap, List.mem_singleton] at h
  rcases h with rfl | ⟨d, -, hescape⟩ | rfl
  · rfl
  · exact isControl_of_mem_escape hescape
  · rfl

/-- **A quoted text is read back, and cannot be broken out of.**  Read together with anything that
follows, the literal of a text stands for that text and ends where it was ended; no control
character stands in it. -/
theorem scan_quote (text : String) :
    (∀ rest : String, scan (quote text ++ rest).toList = some (text.toList, rest.toList)) ∧
    ∀ c ∈ (quote text).toList, isControl c = false := by
  refine ⟨fun rest => ?_, fun c hc => ?_⟩
  · rw [String.toList_append, toList_quote]
    exact scan_quoteChars text.toList rest.toList
  · rw [toList_quote] at hc
    exact isControl_of_mem_quoteChars hc

/-- A text that looks like escapes, and then ends in a backslash, before a quote. -/
example : scan (quoteChars ['\\', 'n', '"', '\\', 'u', '0', '0', '4', '1', '\x7f', '\\'] ++ ['"']) =
    some (['\\', 'n', '"', '\\', 'u', '0', '0', '4', '1', '\x7f', '\\'], ['"']) := by decide

end EntSchema.Go

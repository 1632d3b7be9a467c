import EntSchema.Json.Reader
import EntSchema.Json.Writer
import EntSchema.Proofs.Traversal
import Mathlib.Data.List.DropRight

/-!
# Reading what was written

The writer puts nothing between the parts of a value but brackets, commas and colons, so the reader
has to find the end of each part by itself.  `ReadsBack` says that it does: in front of any text
that a number cannot go on into, what was written for one value is read as another, and no more is
read.  Lists and objects read back when their items do, one level deeper.

The two values differ because the reader sorts the members of objects: what is written in declared
order comes back in the order of the keys.
-/

namespace EntSchema.Json

/-! ## Numbers -/

/-- Whether a text may stand behind a number: the number cannot go on into it. -/
def EndsNumber : List Char → Prop
  | [] => True
  | c :: _ => isDigit c = false ∧ c ≠ '.' ∧ c ≠ 'e' ∧ c ≠ 'E'

lemma digitsOf_ne_nil (n : Nat) : Decimal.digitsOf n ≠ [] := Nat.toDigits_ne_nil

lemma isDigit_of_mem_digitsOf {n : Nat} {c : Char} (h : c ∈ Decimal.digitsOf n) :
    isDigit c = true := by
  have hdigit : c.isDigit = true :=
    Nat.isDigit_of_mem_toDigits (by decide : 0 < 10) (by decide : 10 ≤ 10) h
  simpa [isDigit, Char.isDigit, Char.le_def] using hdigit

lemma digitsOf_append {n : Nat} {rest : List Char} (hrest : EndsNumber rest) :
    (Decimal.digitsOf n ++ rest).takeWhile isDigit = Decimal.digitsOf n ∧
      (Decimal.digitsOf n ++ rest).dropWhile isDigit = rest := by
  have hdigits : ∀ c ∈ Decimal.digitsOf n, isDigit c = true :=
    fun c => isDigit_of_mem_digitsOf
  rw [List.takeWhile_append_of_pos hdigits, List.dropWhile_append_of_pos hdigits]
  cases rest with
  | nil => simp
  | cons c more =>
    obtain ⟨hc, -⟩ := hrest
    simp [hc]

/-- Only zero has a leading zero. -/
lemma head?_digitsOf {n : Nat} (hn : 0 < n) : (Decimal.digitsOf n).head? ≠ some '0' := by
  induction n using Nat.strongRecOn with
  | ind n ih =>
    unfold Decimal.digitsOf at ih ⊢
    rw [Nat.toDigits_eq_if (by decide)]
    split
    · rename_i hlt
      rw [List.head?_cons, ne_eq, Option.some.injEq, Nat.digitChar_eq_zero]
      omega
    · rename_i hge
      rw [List.head?_append_of_ne_nil _ Nat.toDigits_ne_nil]
      exact ih (n / 10) (by omega) (by omega)

lemma digitsOf_ne_zero_cons (n : Nat) (d : Char) (more : List Char) :
    Decimal.digitsOf n ≠ '0' :: d :: more := by
  intro heq
  obtain rfl | hn := Nat.eq_zero_or_pos n
  · cases heq
  · exact head?_digitsOf hn (by rw [heq]; rfl)

lemma le_ofDigitChars (digits : List Char) (value : Nat) :
    value ≤ Nat.ofDigitChars 10 digits value := by
  induction digits generalizing value with
  | nil => exact Nat.le_refl value
  | cons d digits ih =>
    rw [Nat.ofDigitChars_cons]
    have := ih (10 * value + (d.toNat - '0'.toNat))
    omega

/-- Digits that fit are all gathered. -/
lemma gather_of_le {limit : Nat} {digits : List Char} {value : Nat}
    (h : Nat.ofDigitChars 10 digits value ≤ limit) :
    gather limit value digits = (Nat.ofDigitChars 10 digits value, 0) := by
  induction digits generalizing value with
  | nil => rfl
  | cons d digits ih =>
    rw [Nat.ofDigitChars_cons, Nat.mul_comm] at h ⊢
    have hfirst := le_ofDigitChars digits (value * 10 + digitValue d)
    unfold gather
    rw [if_pos (Nat.le_trans hfirst h)]
    exact ih h

lemma readNumber_digitsOf (negative : Bool) {n : Nat} {rest : List Char}
    (hn : n ≤ greatestSignificand) (hrest : EndsNumber rest) :
    readNumber negative (Decimal.digitsOf n ++ rest) = readWhole negative n 0 rest := by
  obtain ⟨htake, hdrop⟩ := digitsOf_append (n := n) hrest
  have hvalue : Nat.ofDigitChars 10 (Decimal.digitsOf n) 0 = n := Nat.ofDigitChars_ten_toDigits
  have hgather : gather greatestSignificand 0 (Decimal.digitsOf n) = (n, 0) := by
    rw [gather_of_le (by rwa [hvalue]), hvalue]
  unfold readNumber
  simp only [htake, hdrop]
  split
  · rename_i hnil
    exact absurd hnil (digitsOf_ne_nil n)
  · rename_i d more heq
    exact absurd heq (digitsOf_ne_zero_cons n d more)
  · rw [hgather]
    split
    · exact absurd rfl hrest.2.1
    · exact absurd rfl hrest.2.2.1
    · exact absurd rfl hrest.2.2.2
    · rfl

/-- Whether an integer fits 64 bits, with a sign if it is negative and without one otherwise. -/
def FitsWord (value : Int) : Prop :=
  -(Nat.pow 2 63 : Int) ≤ value ∧ value ≤ greatestSignificand

lemma readWhole_natAbs {value : Int} (h : FitsWord value) (rest : List Char) :
    readWhole (decide (value < 0)) value.natAbs 0 rest = .ok (.integer value, rest) := by
  obtain ⟨hleast, hgreatest⟩ := h
  have hhalf : Nat.pow 2 63 = 2 ^ 63 := rfl
  unfold readWhole
  rw [if_neg (by decide)]
  by_cases hneg : value < 0
  · have hrange : ¬ (value.natAbs = 0 || decide (Nat.pow 2 63 < value.natAbs)) = true := by
      simp only [Bool.or_eq_true, decide_eq_true_eq]
      omega
    have hvalue : -(value.natAbs : Int) = value := by omega
    rw [decide_eq_true hneg, if_neg (by decide), if_neg hrange, hvalue]
  · have hvalue : (value.natAbs : Int) = value := by omega
    rw [decide_eq_false hneg, if_pos (by decide), hvalue]

/-! ## Values -/

/-- What is written for one value is read as another, whatever stands behind it that a number
cannot go on into. -/
def ReadsBack (depth : Nat) (written value : Value) : Prop :=
  ∀ rest, EndsNumber rest → readValue depth (written.chars ++ rest) = .ok (value, rest)

section Scalars

variable {depth : Nat}

lemma readsBack_null : ReadsBack depth .null .null := by
  intro rest hrest
  cases depth <;> rfl

lemma readsBack_bool (b : Bool) : ReadsBack depth (.bool b) (.bool b) := by
  intro rest hrest
  cases depth <;> cases b <;> rfl

lemma readValue_minus (text : List Char) :
    readValue depth ('-' :: text) =
      readNumber true text >>= fun read => .ok (.number read.1, read.2) := by
  cases depth <;> rfl

lemma readValue_digit {c : Char} (hc : isDigit c = true) (text : List Char) :
    readValue depth (c :: text) =
      readNumber false (c :: text) >>= fun read => .ok (.number read.1, read.2) := by
  have hblank : skipBlank (c :: text) = c :: text := by
    unfold skipBlank
    rw [List.dropWhile_cons_of_neg]
    intro hspace
    simp only [Bool.or_eq_true, beq_iff_eq] at hspace
    rcases hspace with ((rfl | rfl) | rfl) | rfl <;> cases hc
  unfold readValue
  rw [hblank]
  split
  case h_1 heq => cases heq
  case h_9 heq =>
    cases heq
    rw [if_pos hc]
  -- No character that another kind of value starts with is a digit.
  all_goals
    rename_i heq
    cases heq
    cases hc

lemma readsBack_integer {value : Int} (h : FitsWord value) :
    ReadsBack depth (.number (.integer value)) (.number (.integer value)) := by
  intro rest hrest
  have hn : value.natAbs ≤ greatestSignificand := by
    have hbound : greatestSignificand = 2 ^ 64 - 1 := rfl
    have hhalf : Nat.pow 2 63 = 2 ^ 63 := rfl
    obtain ⟨hleast, hgreatest⟩ := h
    omega
  have hread (negative : Bool) := readNumber_digitsOf negative hn hrest
  have hwhole := readWhole_natAbs h rest
  show readValue depth (integerText value ++ rest) = _
  unfold integerText
  by_cases hneg : value < 0
  · rw [if_pos hneg, List.cons_append, readValue_minus, hread]
    simp only [hneg, decide_true] at hwhole
    rw [hwhole]
    rfl
  · rw [if_neg hneg]
    obtain ⟨c, digits, heq⟩ := List.exists_cons_of_ne_nil (digitsOf_ne_nil value.natAbs)
    have hc : isDigit c = true := isDigit_of_mem_digitsOf (heq ▸ List.mem_cons_self)
    rw [heq, List.cons_append, readValue_digit hc, ← List.cons_append, ← heq, hread]
    simp only [hneg, decide_false] at hwhole
    rw [hwhole]
    rfl

end Scalars

/-! ## Texts -/

lemma hexValue?_digitChar {n : Nat} (hn : n < 16) : hexValue? (Nat.digitChar n) = some n := by
  decide +revert

/-- A control character is found again by its number. -/
lemma readUnicode_controlCharacter {c : Char} (hc : c.toNat < 0x20) (text : List Char) :
    readUnicode ('0' :: '0' :: Nat.digitChar (c.toNat / 16) :: Nat.digitChar (c.toNat % 16) ::
      text) = .ok (c, text) := by
  have hhigh := hexValue?_digitChar (by omega : c.toNat / 16 < 16)
  have hlow := hexValue?_digitChar (by omega : c.toNat % 16 < 16)
  have hzero : hexValue? '0' = some 0 := rfl
  have hvalue : c.toNat / 16 * 16 + c.toNat % 16 = c.toNat := by omega
  have hunit : isLowSurrogate c.toNat = false ∧ isHighSurrogate c.toNat = false := by
    simp [isLowSurrogate, isHighSurrogate]
    omega
  simp [readUnicode, readHex, hzero, hhigh, hlow, hvalue, hunit, bind, Except.bind]

section Body

variable (bound : Nat) {c : Char} {text : List Char}

lemma readStringBody_escape {escape : List Char} (h : readEscape escape = .ok (c, text)) :
    readStringBody (bound + 1) ('\\' :: escape) =
      readStringBody bound text >>= fun read => .ok (c :: read.1, read.2) := by
  show (readEscape escape >>= _) = _
  rw [h]
  rfl

lemma readStringBody_plain (hquote : c ≠ '"') (hbackslash : c ≠ '\\')
    (hcontrol : ¬ c.toNat < 0x20) :
    readStringBody (bound + 1) (c :: text) =
      readStringBody bound text >>= fun read => .ok (c :: read.1, read.2) := by
  have hplain : ¬ c < ' ' := hcontrol
  rw [readStringBody, if_neg hquote, if_neg hbackslash, if_neg hplain]

/-- A character is read back from the way it was written. -/
lemma readStringBody_escapeChar (c : Char) (text : List Char) :
    readStringBody (bound + 1) (escapeChar c ++ text) =
      readStringBody bound text >>= fun read => .ok (c :: read.1, read.2) := by
  unfold escapeChar
  split_ifs with hquote hbackslash hback htab hline hfeed hreturn hcontrol
  -- The characters that have an escape of their own.
  any_goals
    subst c
    exact readStringBody_escape bound rfl
  · exact readStringBody_escape bound (readUnicode_controlCharacter hcontrol text)
  · exact readStringBody_plain bound hquote hbackslash hcontrol

end Body

/-- A text is read back from the way it was written, up to its closing quote. -/
lemma readStringBody_flatMap {bound : Nat} {chars : List Char} (hbound : chars.length < bound)
    (rest : List Char) :
    readStringBody bound (chars.flatMap escapeChar ++ '"' :: rest) = .ok (chars, rest) := by
  induction chars generalizing bound with
  | nil =>
    cases bound with
    | zero => exact absurd hbound (by decide)
    | succ bound => rfl
  | cons c chars ih =>
    cases bound with
    | zero => exact absurd hbound (Nat.not_lt_zero _)
    | succ bound =>
      rw [List.flatMap_cons, List.append_assoc, readStringBody_escapeChar,
        ih (Nat.lt_of_succ_lt_succ hbound)]
      rfl

lemma escapeChar_ne_nil (c : Char) : escapeChar c ≠ [] := by
  unfold escapeChar
  split_ifs <;> exact List.cons_ne_nil _ _

lemma length_le_length_flatMap_escapeChar (chars : List Char) :
    chars.length ≤ (chars.flatMap escapeChar).length := by
  induction chars with
  | nil => exact Nat.le_refl 0
  | cons c chars ih =>
    have := List.length_pos_of_ne_nil (escapeChar_ne_nil c)
    rw [List.flatMap_cons, List.length_append, List.length_cons]
    omega

lemma readString_flatMap (text : String) (rest : List Char) :
    readString (text.toList.flatMap escapeChar ++ '"' :: rest) = .ok (text, rest) := by
  have hlength := length_le_length_flatMap_escapeChar text.toList
  unfold readString
  rw [readStringBody_flatMap (by rw [List.length_append]; omega)]
  show Except.ok (String.ofList text.toList, rest) = _
  rw [String.ofList_toList]

lemma stringChars_append (text : String) (rest : List Char) :
    stringChars text ++ rest = '"' :: (text.toList.flatMap escapeChar ++ '"' :: rest) := by
  simp [stringChars]

lemma readsBack_string {depth : Nat} (text : String) :
    ReadsBack depth (.string text) (.string text) := by
  intro rest hrest
  show readValue depth (stringChars text ++ rest) = _
  have hread := readString_flatMap text rest
  rw [stringChars_append]
  cases depth <;> show (readString _ >>= _) = _ <;> rw [hread] <;> rfl

/-! ## Lists -/

section Items

variable {depth : Nat} {text rest : List Char} {item : Value}

lemma skipBlank_skipBlank (text : List Char) : skipBlank (skipBlank text) = skipBlank text :=
  List.dropWhile_idempotent _ text

lemma readValue_skipBlank (text : List Char) :
    readValue depth (skipBlank text) = readValue depth text := by
  unfold readValue
  rw [skipBlank_skipBlank]

/-- A text with a value starts, behind white space, with something other than the end of a list. -/
lemma exists_cons_of_readValue (h : readValue depth text = .ok (item, rest)) :
    ∃ c more, skipBlank text = c :: more ∧ c ≠ ']' ∧
      readValue depth (c :: more) = .ok (item, rest) := by
  rw [← readValue_skipBlank] at h
  cases hblank : skipBlank text with
  | nil =>
    rw [hblank] at h
    cases depth <;> cases h
  | cons c more =>
    rw [hblank] at h
    refine ⟨c, more, rfl, ?_, h⟩
    rintro rfl
    cases depth <;> cases h

lemma readMoreItems_comma (h : readValue depth text = .ok (item, rest)) (bound : Nat) :
    readMoreItems (readValue depth) (bound + 1) (',' :: text) =
      readMoreItems (readValue depth) bound rest >>= fun read => .ok (item :: read.1, read.2) := by
  obtain ⟨c, more, hblank, hc, hread⟩ := exists_cons_of_readValue h
  have hcomma : skipBlank (',' :: text) = ',' :: text := rfl
  unfold readMoreItems
  simp only [hcomma, hblank]
  split
  · rename_i heq
    cases heq
  · rename_i heq
    cases heq
    exact absurd rfl hc
  · rw [hread]
    cases bound <;> rfl

lemma readArray_of_readValue (h : readValue depth text = .ok (item, rest)) :
    readArray (readValue depth) text =
      readMoreItems (readValue depth) (rest.length + 1) rest >>= fun read =>
        .ok (.array (item :: read.1), read.2) := by
  obtain ⟨c, more, hblank, hc, hread⟩ := exists_cons_of_readValue h
  unfold readArray
  simp only [hblank]
  split
  · rename_i heq
    cases heq
  · rename_i heq
    cases heq
    exact absurd rfl hc
  · rw [hread]
    rfl

/-- A list goes on, and ends, with something that ends a number. -/
lemma endsNumber_itemsChars (items : List Value) (rest : List Char) :
    EndsNumber (itemsChars items ++ rest) := by
  cases items <;> exact ⟨rfl, by decide, by decide, by decide⟩

lemma readMoreItems_itemsChars {written items : List Value}
    (h : List.Forall₂ (ReadsBack depth) written items) {bound : Nat} (rest : List Char)
    (hbound : (itemsChars written).length ≤ bound) :
    readMoreItems (readValue depth) bound (itemsChars written ++ rest) = .ok (items, rest) := by
  induction h generalizing bound with
  | nil =>
    cases bound with
    | zero => exact absurd hbound (by decide)
    | succ bound => rfl
  | @cons first item others items hfirst hothers ih =>
    cases bound with
    | zero => exact absurd hbound (Nat.not_succ_le_zero _)
    | succ bound =>
      have hread := hfirst (itemsChars others ++ rest) (endsNumber_itemsChars others rest)
      have hothers : (itemsChars others).length ≤ bound := by
        simp only [itemsChars, List.length_cons, List.length_append] at hbound
        omega
      simp only [itemsChars, List.cons_append, List.append_assoc]
      rw [readMoreItems_comma hread, ih hothers]
      rfl

/-- A list reads back when its items do. -/
lemma readsBack_array {written items : List Value}
    (h : List.Forall₂ (ReadsBack depth) written items) :
    ReadsBack (depth + 1) (.array written) (.array items) := by
  intro rest hrest
  cases h with
  | nil => rfl
  | @cons first item others items hfirst hothers =>
    have hread := hfirst (itemsChars others ++ rest) (endsNumber_itemsChars others rest)
    show readArray (readValue depth) (first.chars ++ itemsChars others ++ rest) = _
    rw [List.append_assoc, readArray_of_readValue hread,
      readMoreItems_itemsChars hothers rest (by rw [List.length_append]; omega)]
    rfl

end Items

/-! ## Objects -/

section Members

variable {depth : Nat} {value : Value}

lemma endsNumber_membersChars (members : List (String × Value)) (rest : List Char) :
    EndsNumber (membersChars members ++ rest) := by
  cases members <;> exact ⟨rfl, by decide, by decide, by decide⟩

/-- A member behind the opening quote of its key. -/
lemma readMember_of_readsBack {written : Value} (h : ReadsBack depth written value) (key : String)
    (members : List (String × Value)) (rest : List Char) :
    readMember (readValue depth) (key.toList.flatMap escapeChar ++
      '"' :: ':' :: (written.chars ++ (membersChars members ++ rest))) =
        .ok ((key, value), membersChars members ++ rest) := by
  have hread := h (membersChars members ++ rest) (endsNumber_membersChars members rest)
  unfold readMember
  rw [readString_flatMap]
  show (readValue depth _ >>= _) = _
  rw [hread]
  rfl

/-- A member that reads back keeps its key. -/
def MemberReadsBack (depth : Nat) (written member : String × Value) : Prop :=
  written.1 = member.1 ∧ ReadsBack depth written.2 member.2

lemma ReadsBack.member {written : Value} (h : ReadsBack depth written value) (key : String) :
    MemberReadsBack depth (key, written) (key, value) :=
  ⟨rfl, h⟩

lemma readMoreMembers_membersChars {written members : List (String × Value)}
    (h : List.Forall₂ (MemberReadsBack depth) written members) {bound : Nat} (rest : List Char)
    (hbound : (membersChars written).length ≤ bound) :
    readMoreMembers (readValue depth) bound (membersChars written ++ rest) =
      .ok (members, rest) := by
  induction h generalizing bound with
  | nil =>
    cases bound with
    | zero => exact absurd hbound (by decide)
    | succ bound => rfl
  | @cons first member others members hfirst hothers ih =>
    cases bound with
    | zero => exact absurd hbound (Nat.not_succ_le_zero _)
    | succ bound =>
      obtain ⟨key, written⟩ := first
      obtain ⟨key', value⟩ := member
      obtain ⟨rfl, hvalue⟩ := hfirst
      have hread := readMember_of_readsBack hvalue key others rest
      have hothers : (membersChars others).length ≤ bound := by
        simp only [membersChars, List.length_cons, List.length_append] at hbound
        omega
      simp only [membersChars, List.cons_append, List.append_assoc, stringChars_append]
      show (readMember (readValue depth) _ >>= _) = _
      rw [hread]
      show (readMoreMembers (readValue depth) bound _ >>= _) = _
      rw [ih hothers]
      rfl

/-- An object reads back when its members do, sorted by their keys. -/
lemma readsBack_object {written members : List (String × Value)}
    (h : List.Forall₂ (MemberReadsBack depth) written members) :
    ReadsBack (depth + 1) (.object written) (.object (sortMembers members)) := by
  intro rest hrest
  cases h with
  | nil => rfl
  | @cons first member others members hfirst hothers =>
    obtain ⟨key, written⟩ := first
    obtain ⟨key', value⟩ := member
    obtain ⟨rfl, hvalue⟩ := hfirst
    have hread := readMember_of_readsBack hvalue key others rest
    simp only [Value.chars, List.cons_append, List.append_assoc, stringChars_append]
    show (readMember (readValue depth) _ >>= _) = _
    rw [hread]
    show (readMoreMembers (readValue depth) _ _ >>= _) = _
    rw [readMoreMembers_membersChars hothers rest (by rw [List.length_append]; omega)]
    rfl

end Members

/-! ## Whole texts -/

lemma parse_compact {written value : Value} (h : ReadsBack greatestDepth written value) :
    parse written.compact = .ok value := by
  have hread := h [] trivial
  rw [List.append_nil] at hread
  unfold parse readText Value.compact
  rw [String.toList_ofList, hread]
  rfl

end EntSchema.Json

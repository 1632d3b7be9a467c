import EntSchema.Decimal.Shortest
import EntSchema.Proofs.UniqueDecoding
import EntSchema.Proofs.WrittenJson
import Mathlib.Data.List.DropRight

/-!
# The text of decimal numbers

A number is written in front of a Go parenthesis as it comes, so its text has to be one that Go
takes for a number, and for a decimal one: digits behind a superfluous zero would be octal.
`Go.IsNumberLiteral` is the grammar.  Both notations keep to it as long as the digits that are
written start with one that is not zero (`isUnsignedLiteral_text`).

So the digits of a floating-point number must not come out as zero.  A decimal number that reads
back as a positive magnitude is not zero, and where the search for one gives up, it has gone down to
a grid far below the first digit (`coefficient_shortest_pos`).
-/

namespace EntSchema

/-! ## Number literals -/

namespace Go

/-- Digits in front of a point: a zero stands alone. -/
def IsWhole (text : List Char) : Prop :=
  IsDigits text ∧ (text.head? = some '0' → text = ['0'])

/-- Nothing, or a point with digits behind it. -/
def IsFraction (text : List Char) : Prop :=
  text = [] ∨ ∃ digits, text = '.' :: digits ∧ IsDigits digits

/-- Nothing, or a power of ten, its sign always written. -/
def IsExponent (text : List Char) : Prop :=
  text = [] ∨ ∃ sign digits, text = 'e' :: sign :: digits ∧ (sign = '+' ∨ sign = '-') ∧
    IsDigits digits

/-- A decimal literal of Go without a sign. -/
def IsUnsignedLiteral (text : List Char) : Prop :=
  ∃ whole fraction exponent, text = whole ++ fraction ++ exponent ∧
    IsWhole whole ∧ IsFraction fraction ∧ IsExponent exponent

/-- A decimal literal of Go, perhaps behind a minus sign. -/
def IsNumberLiteral (text : List Char) : Prop :=
  IsUnsignedLiteral text ∨ ∃ unsigned, text = '-' :: unsigned ∧ IsUnsignedLiteral unsigned

end Go

namespace Decimal

open Go (IsWhole IsFraction IsExponent IsUnsignedLiteral IsNumberLiteral)

/-! ## Digits -/

section Digits

variable {digits others : List Char}

lemma isDigits_append (hdigits : IsDigits digits) (hothers : ∀ c ∈ others, c.isDigit = true) :
    IsDigits (digits ++ others) := by
  refine ⟨by simp [hdigits.1], ?_⟩
  exact List.forall_mem_append.2 ⟨hdigits.2, hothers⟩

lemma isDigit_of_mem_replicate {count : Nat} {c : Char} (h : c ∈ List.replicate count '0') :
    c.isDigit = true := by
  rw [List.eq_of_mem_replicate h]
  decide

lemma isDigits_digitsOf (n : Nat) : IsDigits (digitsOf n) :=
  ⟨Json.digitsOf_ne_nil n, fun _ hc =>
    Nat.isDigit_of_mem_toDigits (by decide : 0 < 10) (by decide : 10 ≤ 10) hc⟩

lemma isWhole_digitsOf (n : Nat) : IsWhole (digitsOf n) := by
  refine ⟨isDigits_digitsOf n, fun hhead => ?_⟩
  obtain rfl | hn := Nat.eq_zero_or_pos n
  · rfl
  · exact absurd hhead (Json.head?_digitsOf hn)

/-- A text of digits that does not start with a zero. -/
structure IsLeading (digits : List Char) : Prop where
  isDigits : IsDigits digits
  head : digits.head? ≠ some '0'

/-- The digits of a number without the zeros at its end. -/
lemma isLeading_rdropWhile {n : Nat} (hn : 0 < n) :
    IsLeading ((digitsOf n).rdropWhile (· == '0')) := by
  have hstart := List.rdropWhile_prefix (· == '0') (digitsOf n)
  have hne : (digitsOf n).rdropWhile (· == '0') ≠ [] := by
    intro hnil
    have hzeros := List.rdropWhile_eq_nil_iff.1 hnil
    obtain ⟨c, rest, heq⟩ := List.exists_cons_of_ne_nil (Json.digitsOf_ne_nil n)
    have hc : c = '0' := by simpa using hzeros c (by rw [heq]; exact List.mem_cons_self)
    exact Json.head?_digitsOf hn (by rw [heq, hc]; rfl)
  refine ⟨⟨hne, fun c hc => (isDigits_digitsOf n).2 c (hstart.subset hc)⟩, ?_⟩
  obtain ⟨zeros, hzeros⟩ := hstart
  have hhead : (digitsOf n).head? = ((digitsOf n).rdropWhile (· == '0')).head? := by
    conv_lhs => rw [← hzeros]
    exact List.head?_append_of_ne_nil _ hne
  rw [← hhead]
  exact Json.head?_digitsOf hn

/-- More digits behind leading ones make a whole number. -/
lemma IsLeading.isWhole (h : IsLeading digits) (hothers : ∀ c ∈ others, c.isDigit = true) :
    IsWhole (digits ++ others) := by
  refine ⟨isDigits_append h.isDigits hothers, fun hhead => ?_⟩
  rw [List.head?_append_of_ne_nil _ h.isDigits.1] at hhead
  exact absurd hhead h.head

end Digits

/-! ## Notations -/

section Notations

variable {digits : List Char}

lemma isUnsignedLiteral_plainText (h : IsLeading digits) (power : Int) :
    IsUnsignedLiteral (plainText digits power) := by
  have hzero : IsDigits ['0'] := ⟨List.cons_ne_nil _ _, by simp⟩
  unfold plainText
  by_cases hneg : power < 0
  · rw [if_pos hneg]
    have hfraction : IsDigits (List.replicate ((-power).toNat - 1) '0' ++ digits) := by
      refine ⟨by simp [h.isDigits.1], ?_⟩
      exact List.forall_mem_append.2 ⟨fun c => isDigit_of_mem_replicate, h.isDigits.2⟩
    exact ⟨['0'], '.' :: (List.replicate ((-power).toNat - 1) '0' ++ digits), [], by simp,
      ⟨hzero, fun _ => rfl⟩, .inr ⟨_, rfl, hfraction⟩, .inl rfl⟩
  · rw [if_neg hneg]
    dsimp only
    by_cases hshort : digits.length ≤ power.toNat + 1
    · rw [if_pos hshort]
      exact ⟨digits ++ List.replicate (power.toNat + 1 - digits.length) '0', ['.', '0'], [],
        by simp, h.isWhole fun c => isDigit_of_mem_replicate, .inr ⟨['0'], rfl, hzero⟩, .inl rfl⟩
    · rw [if_neg hshort]
      have hsplit := List.take_append_drop (power.toNat + 1) digits
      have htake : IsLeading (digits.take (power.toNat + 1)) := by
        have hne : digits.take (power.toNat + 1) ≠ [] := by simp [h.isDigits.1]
        refine ⟨⟨hne, fun c hc => h.isDigits.2 c (List.mem_of_mem_take hc)⟩, ?_⟩
        have hhead : digits.head? = (digits.take (power.toNat + 1)).head? := by
          conv_lhs => rw [← hsplit]
          exact List.head?_append_of_ne_nil _ hne
        rw [← hhead]
        exact h.head
      have hdrop : IsDigits (digits.drop (power.toNat + 1)) := by
        refine ⟨?_, fun c hc => h.isDigits.2 c (List.mem_of_mem_drop hc)⟩
        rw [ne_eq, List.drop_eq_nil_iff]
        omega
      have hnone : ∀ c ∈ ([] : List Char), c.isDigit = true := by simp
      have hwhole := htake.isWhole hnone
      rw [List.append_nil] at hwhole
      exact ⟨_, '.' :: digits.drop (power.toNat + 1), [], by simp, hwhole, .inr ⟨_, rfl, hdrop⟩,
        .inl rfl⟩

lemma isUnsignedLiteral_exponentText (h : IsLeading digits) (power : Int) :
    IsUnsignedLiteral (exponentText digits power) := by
  have hexponent :
      IsExponent ('e' :: (if power < 0 then '-' else '+') :: digitsOf power.natAbs) := by
    refine .inr ⟨_, _, rfl, ?_, isDigits_digitsOf _⟩
    by_cases hneg : power < 0
    · exact .inr (if_pos hneg)
    · exact .inl (if_neg hneg)
  obtain ⟨d, rest, rfl⟩ := List.exists_cons_of_ne_nil h.isDigits.1
  have hfirst : IsWhole [d] := by
    refine ⟨⟨List.cons_ne_nil _ _, ?_⟩, fun hhead => ?_⟩
    · simpa using h.isDigits.2 d List.mem_cons_self
    · exact absurd hhead h.head
  cases rest with
  | nil => exact ⟨[d], [], _, rfl, hfirst, .inl rfl, hexponent⟩
  | cons next more =>
    have hmore : IsDigits (next :: more) :=
      ⟨List.cons_ne_nil _ _, fun c hc => h.isDigits.2 c (List.mem_cons_of_mem _ hc)⟩
    exact ⟨[d], '.' :: next :: more, _, by simp [exponentText], hfirst, .inr ⟨_, rfl, hmore⟩,
      hexponent⟩

/-- A positive decimal number is written as a literal, in either notation. -/
lemma isUnsignedLiteral_text (layout : Layout) {x : Scientific} (hx : 0 < x.coefficient) :
    IsUnsignedLiteral (x.text layout) := by
  have hdigits := isLeading_rdropWhile hx
  unfold List.rdropWhile at hdigits
  unfold Scientific.text
  dsimp only
  split_ifs with hplain
  · exact isUnsignedLiteral_plainText hdigits _
  · exact isUnsignedLiteral_exponentText hdigits _

end Notations

/-! ## The first digit -/

/-- A magnitude that is no smaller than the format allows. -/
def Magnitude.InFormat (x : Magnitude) : Prop := leastExponent ≤ x.exponent

lemma Magnitude.inFormat_of_nearest? {value : Fraction} {x : Magnitude}
    (h : nearest? value = some x) : x.InFormat := by
  unfold nearest? at h
  unfold InFormat
  split at h
  · cases h
    exact le_refl _
  · have hleast := le_max_left leastExponent
      ((value.numerator.log2 : Int) - value.denominator.log2 - 53)
    dsimp only at h
    generalize max leastExponent _ = guess at h hleast
    -- The exponent is the guess, or at most two above it.
    split_ifs at h <;> cases h <;> dsimp only <;> omega

/-- Only zero is nearest to zero. -/
lemma Magnitude.numerator_ne_zero_of_nearest? {value : Fraction} {x : Magnitude}
    (h : nearest? value = some x) (hx : x.significand ≠ 0) : value.numerator ≠ 0 := by
  intro hzero
  unfold nearest? at h
  rw [if_pos hzero] at h
  cases h
  exact hx rfl

lemma Fraction.numerator_ofPower_zero (base : Nat) (power : Int) :
    (ofPower 0 base power).numerator = 0 := by
  unfold ofPower
  split <;> simp

/-- Whether a fraction reaches a power of ten. -/
def Fraction.Reaches (value : Fraction) (power : Int) : Prop :=
  value.denominator * 10 ^ power.toNat ≤ value.numerator * 10 ^ (-power).toNat

namespace Fraction

variable {value : Fraction} {power lower : Int}

/-- What reaches a power of ten reaches all lower ones. -/
lemma Reaches.mono (h : value.Reaches power) (hle : lower ≤ power) : value.Reaches lower := by
  have hup : (10 : Nat) ^ lower.toNat ≤ 10 ^ power.toNat :=
    Nat.pow_le_pow_right (by decide) (by omega)
  have hdown : (10 : Nat) ^ (-power).toNat ≤ 10 ^ (-lower).toNat :=
    Nat.pow_le_pow_right (by decide) (by omega)
  calc value.denominator * 10 ^ lower.toNat
    _ ≤ value.denominator * 10 ^ power.toNat := Nat.mul_le_mul_left _ hup
    _ ≤ value.numerator * 10 ^ (-power).toNat := h
    _ ≤ value.numerator * 10 ^ (-lower).toNat := Nat.mul_le_mul_left _ hdown

/-- On the grid of a power of ten that it reaches, a fraction has a whole part. -/
lemma Reaches.floor_pos (h : value.Reaches power) (hvalue : 0 < value.denominator) :
    0 < (value.div (ofPower 1 10 power)).floor := by
  unfold Reaches at h
  unfold floor div ofPower
  by_cases hpower : 0 ≤ power
  · have hzero : (-power).toNat = 0 := by omega
    rw [hzero] at h
    rw [if_pos hpower]
    refine Nat.div_pos ?_ ?_
    · simpa using h
    · exact Nat.mul_pos hvalue (by simp)
  · have hzero : power.toNat = 0 := by omega
    rw [hzero] at h
    rw [if_neg hpower]
    refine Nat.div_pos ?_ ?_
    · simpa using h
    · exact Nat.mul_pos hvalue Nat.one_pos

end Fraction

/-- A number has the size of its first digit. -/
lemma pow_length_digitsOf_le {n : Nat} (hn : 0 < n) : 10 ^ ((digitsOf n).length - 1) ≤ n := by
  induction n using Nat.strongRecOn with
  | ind n ih =>
    unfold digitsOf at ih ⊢
    rw [Nat.toDigits_eq_if (by decide)]
    split
    · exact hn
    · rename_i hge
      have hfirst := ih (n / 10) (by omega) (by omega)
      have hlength := List.length_pos_of_ne_nil (Json.digitsOf_ne_nil (n / 10))
      unfold digitsOf at hlength
      rw [List.length_append, List.length_singleton, Nat.add_sub_cancel]
      calc 10 ^ (Nat.toDigits 10 (n / 10)).length
        _ = 10 ^ ((Nat.toDigits 10 (n / 10)).length - 1) * 10 := by
          rw [← Nat.pow_succ]
          congr 1
          omega
        _ ≤ n / 10 * 10 := Nat.mul_le_mul_right 10 hfirst
        _ ≤ n := Nat.div_mul_le_self n 10

/-- A fraction is multiplied by ten until it reaches one, or as often as is allowed. -/
lemma placesBelowOne_spec (bound : Nat) (value : Fraction) :
    value.denominator ≤ value.numerator * 10 ^ placesBelowOne bound value ∨
      placesBelowOne bound value = bound := by
  induction bound generalizing value with
  | zero => exact .inr rfl
  | succ bound ih =>
    unfold placesBelowOne
    by_cases hone : value.denominator ≤ value.numerator
    · rw [if_pos hone]
      exact .inl (by simpa using hone)
    · rw [if_neg hone]
      refine (ih ⟨value.numerator * 10, value.denominator⟩).imp (fun hreaches => ?_) (by simp)
      rw [Nat.pow_succ, Nat.mul_comm _ 10, ← Nat.mul_assoc]
      exact hreaches

/-- The search for digits ends below the first one. -/
lemma reaches_leadingPower {value : Fraction} (hnumerator : 0 < value.numerator)
    (hpositive : 0 < value.denominator) (hdenominator : value.denominator ≤ 10 ^ 400) :
    value.Reaches (leadingPower value) := by
  unfold leadingPower
  by_cases hone : value.denominator ≤ value.numerator
  · rw [if_pos hone]
    have hfloor : 0 < value.floor := Nat.div_pos hone hpositive
    have hsize := pow_length_digitsOf_le hfloor
    have hlength := List.length_pos_of_ne_nil (Json.digitsOf_ne_nil value.floor)
    have hup : ((digitsOf value.floor).length - 1 : Int).toNat =
        (digitsOf value.floor).length - 1 := by omega
    have hdown : (-((digitsOf value.floor).length - 1 : Int)).toNat = 0 := by omega
    unfold Fraction.Reaches
    rw [hup, hdown]
    calc value.denominator * 10 ^ ((digitsOf value.floor).length - 1)
      _ ≤ value.denominator * value.floor := Nat.mul_le_mul_left _ hsize
      _ ≤ value.numerator := Nat.mul_div_le value.numerator value.denominator
      _ = value.numerator * 10 ^ 0 := by simp
  · rw [if_neg hone]
    have hup : (-(placesBelowOne 400 value : Int)).toNat = 0 := by omega
    have hdown : (- -(placesBelowOne 400 value : Int)).toNat = placesBelowOne 400 value := by omega
    unfold Fraction.Reaches
    rw [hup, hdown, Nat.pow_zero, Nat.mul_one]
    obtain hreaches | hbound := placesBelowOne_spec 400 value
    · exact hreaches
    · rw [hbound]
      exact hdenominator.trans (Nat.le_mul_of_pos_left _ hnumerator)

/-! ## Magnitudes -/

section Magnitudes

variable {x : Magnitude}

lemma two_pow_le_ten_pow {power tens : Nat} (h : power ≤ 3 * tens) : 2 ^ power ≤ 10 ^ tens := by
  calc 2 ^ power
    _ ≤ 2 ^ (3 * tens) := Nat.pow_le_pow_right (by decide) h
    _ = (2 ^ 3) ^ tens := Nat.pow_mul ..
    _ ≤ 10 ^ tens := Nat.pow_le_pow_left (by decide) tens

/-- The power of ten of the first digit is found for every magnitude of the format. -/
lemma Magnitude.reaches_leadingPower (hformat : x.InFormat) (hx : 0 < x.significand) :
    x.toFraction.Reaches (leadingPower x.toFraction) ∧ 0 < x.toFraction.denominator := by
  have hleast : -1074 ≤ x.exponent := hformat
  have hsize : 2 ^ (-x.exponent).toNat ≤ 10 ^ 400 := two_pow_le_ten_pow (by omega)
  have hone (tens : Nat) : 1 ≤ 10 ^ tens := Nat.one_le_pow tens 10 (by decide)
  have hpow (k : Nat) : 0 < Nat.pow 2 k := Nat.pow_pos (by decide)
  suffices hfraction : 0 < x.toFraction.numerator ∧ 0 < x.toFraction.denominator ∧
      x.toFraction.denominator ≤ 10 ^ 400 from
    ⟨Decimal.reaches_leadingPower hfraction.1 hfraction.2.1 hfraction.2.2, hfraction.2.1⟩
  unfold toFraction Fraction.ofPower
  by_cases hexponent : 0 ≤ x.exponent
  · rw [if_pos hexponent]
    exact ⟨Nat.mul_pos hx (hpow _), Nat.one_pos, hone 400⟩
  · rw [if_neg hexponent]
    exact ⟨hx, hpow _, hsize⟩

/-- What the search for digits finds is not zero, nor is what it ends with. -/
lemma coefficient_firstReadingBack_pos (hx : 0 < x.significand)
    (hpositive : 0 < x.toFraction.denominator) {count : Nat} {power : Int}
    (hreaches : x.toFraction.Reaches power) :
    0 < (firstReadingBack x count power).coefficient := by
  induction count generalizing power with
  | zero => exact hreaches.floor_pos hpositive
  | succ count ih =>
    unfold firstReadingBack
    split
    · rename_i d hfound
      have hreads : Magnitude.nearest? d.toFraction = some x := by
        simpa using List.find?_some hfound
      have hd := Magnitude.numerator_ne_zero_of_nearest? hreads (Nat.pos_iff_ne_zero.1 hx)
      refine Nat.pos_of_ne_zero fun hzero => hd ?_
      rw [Scientific.toFraction, hzero, Fraction.numerator_ofPower_zero]
    · exact ih (hreaches.mono (by omega))

lemma coefficient_shortest_pos (hformat : x.InFormat) (hx : 0 < x.significand) :
    0 < (shortest x).coefficient := by
  obtain ⟨hreaches, hpositive⟩ := Magnitude.reaches_leadingPower hformat hx
  exact coefficient_firstReadingBack_pos hx hpositive hreaches

end Magnitudes

/-- **A floating-point number is written as a literal of Go**, whatever the layout. -/
lemma isNumberLiteral_text (layout : Layout) {x : Binary64} (hformat : x.magnitude.InFormat) :
    IsNumberLiteral (x.text layout) := by
  have hunsigned : IsUnsignedLiteral
      (if x.magnitude.isZero then ['0', '.', '0'] else (shortest x.magnitude).text layout) := by
    by_cases hzero : x.magnitude.significand = 0
    · have hdigits : IsDigits ['0'] := ⟨List.cons_ne_nil _ _, by simp⟩
      rw [if_pos (by simpa [Magnitude.isZero] using hzero)]
      exact ⟨['0'], ['.', '0'], [], rfl, ⟨hdigits, fun _ => rfl⟩, .inr ⟨['0'], rfl, hdigits⟩,
        .inl rfl⟩
    · rw [if_neg (by simpa [Magnitude.isZero] using hzero)]
      exact isUnsignedLiteral_text layout
        (coefficient_shortest_pos hformat (Nat.pos_of_ne_zero hzero))
  unfold Binary64.text
  dsimp only
  split
  · exact .inr ⟨_, rfl, hunsigned⟩
  · exact .inl hunsigned

end Decimal

namespace Json

open Go (IsNumberLiteral IsUnsignedLiteral)

lemma isNumberLiteral_integerText (value : Int) : IsNumberLiteral (integerText value) := by
  have hdigits : IsUnsignedLiteral (Decimal.digitsOf value.natAbs) :=
    ⟨Decimal.digitsOf value.natAbs, [], [], by simp, Decimal.isWhole_digitsOf _, .inl rfl, .inl rfl⟩
  unfold integerText
  split
  · exact .inr ⟨_, rfl, hdigits⟩
  · exact .inl hdigits

end Json

end EntSchema

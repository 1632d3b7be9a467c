/-!
# Replacing parts of a text

`replaceAll` goes through a text once, from left to right.  Where a pattern stands it writes the
replacement and goes on behind the pattern, so that what it has written is not looked at again.
-/

namespace EntSchema.Text

/-- A text behind its first `skipped` characters with every occurrence of a pattern replaced. -/
def replaceBehind (pattern replacement : List Char) : Nat → List Char → List Char
  | _, [] => []
  | skipped + 1, _ :: rest => replaceBehind pattern replacement skipped rest
  | 0, c :: rest =>
    if pattern.isPrefixOf (c :: rest) then
      replacement ++ replaceBehind pattern replacement (pattern.length - 1) rest
    else c :: replaceBehind pattern replacement 0 rest

/-- A text with every occurrence of a pattern replaced. -/
def replaceAll (pattern replacement text : String) : String :=
  String.ofList (replaceBehind pattern.toList replacement.toList 0 text.toList)

@[simp] theorem replaceBehind_nil (pattern replacement : List Char) (skipped : Nat) :
    replaceBehind pattern replacement skipped [] = [] := by
  cases skipped <;> rfl

theorem replaceBehind_eq_drop (pattern replacement : List Char) (skipped : Nat)
    (text : List Char) :
    replaceBehind pattern replacement skipped text =
      replaceBehind pattern replacement 0 (text.drop skipped) := by
  induction skipped generalizing text with
  | zero => rfl
  | succ skipped ih => cases text <;> simp [replaceBehind, ih]

end EntSchema.Text

import EntSchema.Text.Ranges

/-!
# White space

The characters with the Unicode property `White_Space`.
-/

namespace EntSchema.Text

/-- The code points of white space. -/
def blankRuns : List Run :=
  [⟨0x9, 0xd, 1⟩, ⟨0x20, 0x20, 1⟩, ⟨0x85, 0x85, 1⟩, ⟨0xa0, 0xa0, 1⟩, ⟨0x1680, 0x1680, 1⟩,
    ⟨0x2000, 0x200a, 1⟩, ⟨0x2028, 0x2029, 1⟩, ⟨0x202f, 0x202f, 1⟩, ⟨0x205f, 0x205f, 1⟩,
    ⟨0x3000, 0x3000, 1⟩]

def isBlank (c : Char) : Bool := covers blankRuns c.toNat

def isBlankText (text : String) : Bool := text.toList.all isBlank

end EntSchema.Text

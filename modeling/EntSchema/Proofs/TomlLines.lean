import EntSchema.Schema.SourceText
import EntSchema.Toml.Reader
import Mathlib.Tactic.SplitIfs
import Mathlib.Data.List.Basic

/-!
# TOML line by line

A document whose lines are read one after another is read as a whole (`parse_textOfLines`).  A
comment and an empty line leave the document alone; a line that gives a value under a bare name adds
it to the table of the last header.  A text between double quotes is read back from its escapes,
whatever quotes, backslashes and other characters it has (`IsWritten.readValue_eq`).
-/

namespace EntSchema.Toml

/-! ## Lines -/

/-- Whether reading a line leads from one state to another, whatever lines follow. -/
def ReadsLine (state : State) (line : String) (next : State) : Prop :=
  ∀ rest, readLine state (line.toList ++ '\n' :: rest) = some (next, rest)

/-- Whether reading lines, one after another, leads from one state to another. -/
inductive ReadsLines : State → List String → State → Prop where
  | nil (state : State) : ReadsLines state [] state
  | cons {state middle next : State} {line : String} {lines : List String}
    (first : ReadsLine state line middle) (others : ReadsLines middle lines next) :
    ReadsLines state (line :: lines) next

variable {state middle next : State} {line : String} {lines : List String}

lemma ReadsLines.append {more : List String} (h : ReadsLines state lines middle)
    (h' : ReadsLines middle more next) : ReadsLines state (lines ++ more) next := by
  induction h with
  | nil => exact h'
  | cons first _ ih => exact .cons first (ih h')

lemma ReadsLines.readLines_eq (h : ReadsLines state lines next) {bound : Nat}
    (hbound : lines.length ≤ bound) :
    readLines bound state (textOfLines lines).toList = some next.root := by
  induction h generalizing bound with
  | nil => cases bound <;> rfl
  | @cons state middle next line lines first _ ih =>
    rw [toList_textOfLines_cons]
    cases bound with
    | zero => simp at hbound
    | succ bound =>
      have hrest := ih (Nat.le_of_succ_le_succ hbound)
      have hstep := first (textOfLines lines).toList
      obtain ⟨c, more, htext⟩ : ∃ c more,
          line.toList ++ '\n' :: (textOfLines lines).toList = c :: more :=
        List.exists_cons_of_ne_nil (by simp)
      rw [htext] at hstep ⊢
      rw [readLines, hstep]
      · exact hrest
      · simp

lemma length_le_textOfLines (lines : List String) :
    lines.length ≤ (textOfLines lines).toList.length := by
  induction lines with
  | nil => simp
  | cons line rest ih =>
    rw [toList_textOfLines_cons, List.length_append, List.length_cons, List.length_cons]
    omega

lemma parse_textOfLines (h : ReadsLines ⟨[], []⟩ lines next)
    (hmark : (textOfLines lines).toList.head? ≠ some '\ufeff') :
    parse (textOfLines lines) = some next.root := by
  have hbound : lines.length ≤ (textOfLines lines).toList.length + 1 := by
    have hlength := length_le_textOfLines lines
    omega
  unfold parse
  split
  · rename_i rest htext
    simp [htext] at hmark
  · exact h.readLines_eq hbound

/-! ## Lines that leave the document alone -/

lemma isPlain_of_not_control {c : Char} (h : ¬(c.toNat < 0x20 ∨ c.toNat = 0x7f)) :
    isPlain c = true := by
  have hlow : 0x20 ≤ c.toNat := by omega
  have hdelete : c.toNat ≠ 0x7f := by omega
  simp [isPlain, hlow, hdelete]

lemma lineEnd?_of_isPlain {c : Char} (hc : isPlain c = true) (rest : List Char) :
    lineEnd? (c :: rest) = none := by
  have hfeed : c ≠ '\n' := by
    rintro rfl
    exact absurd hc (by decide)
  have hreturn : c ≠ '\r' := by
    rintro rfl
    exact absurd hc (by decide)
  simp [lineEnd?, readLineEnd, hfeed, hreturn]

lemma readsLine_blank (state : State) : ReadsLine state "" state :=
  fun _ => rfl

lemma inside_of_isPlain {text : List Char} (h : ∀ c ∈ text, isPlain c = true) (rest : List Char) :
    skipComment.inside (text ++ '\n' :: rest) = some ('\n' :: rest) := by
  induction text with
  | nil => rfl
  | cons c text ih =>
    obtain ⟨hc, htext⟩ := List.forall_mem_cons.1 h
    rw [List.cons_append, skipComment.inside, lineEnd?_of_isPlain hc, hc, ih htext]
    rfl

/-- A line that starts with neither a bracket nor a blank ends there or gives a value. -/
lemma readLine_of_ne (state : State) {c : Char} {text : List Char} (hbracket : c ≠ '[')
    (hspace : isSpace c = false) :
    readLine state (c :: text) =
      match endLine (c :: text) with
      | some rest => some (state, rest)
      | none => do
        let ((key, value), rest) ←
          readPair (some ∘ skipSpaces) (readValue greatestDepth) (c :: text)
        let root ← enterAll (assign value true key) state.header state.root
        return ({ state with root := root }, ← endLine rest) := by
  have hstart : skipSpaces (c :: text) = c :: text := by simp [skipSpaces, hspace]
  rw [readLine, hstart]
  split
  · rename_i heq
    exact absurd (List.cons.inj heq).1 hbracket
  · rename_i heq
    exact absurd (List.cons.inj heq).1 hbracket
  · rfl

lemma readsLine_comment (state : State) {text : List Char}
    (hline : line = String.ofList ('#' :: text)) (h : text.all isPlain = true) :
    ReadsLine state line state := by
  intro rest
  have hskip := inside_of_isPlain (List.all_eq_true.1 h) rest
  have hend : endLine ('#' :: (text ++ '\n' :: rest)) = some rest := by
    show (skipComment.inside (text ++ '\n' :: rest) >>= _) = some rest
    rw [hskip]
    rfl
  rw [hline, String.toList_ofList, List.cons_append, readLine_of_ne state (by decide) (by decide),
    hend]

/-! ## Lines that give a value -/

/-- Whether a name can be written as a key without quotes. -/
def isBareKey (name : String) : Bool :=
  !name.toList.isEmpty && name.toList.all isBareChar

lemma isBareChar_of_isBareKey {name : String} (h : isBareKey name = true) :
    ∀ c ∈ name.toList, isBareChar c = true := by
  rw [isBareKey, Bool.and_eq_true, List.all_eq_true] at h
  exact h.2

lemma exists_cons_of_isBareKey {name : String} (h : isBareKey name = true) :
    ∃ c rest, name.toList = c :: rest ∧ isBareChar c = true := by
  have hchars := isBareChar_of_isBareKey h
  cases hname : name.toList with
  | nil => simp [isBareKey, hname] at h
  | cons c rest => exact ⟨c, rest, rfl, hchars c (by simp [hname])⟩

lemma ne_of_isBareChar {c d : Char} (hc : isBareChar c = true) (hd : isBareChar d = false) :
    c ≠ d := by
  rintro rfl
  rw [hc] at hd
  cases hd

lemma isSpace_of_isBareChar {c : Char} (hc : isBareChar c = true) : isSpace c = false := by
  have hspace : c ≠ ' ' := ne_of_isBareChar hc (by decide)
  have htab : c ≠ '\t' := ne_of_isBareChar hc (by decide)
  simp [isSpace, hspace, htab]

lemma endLine_of_isBareChar {c : Char} (hc : isBareChar c = true) (text : List Char) :
    endLine (c :: text) = none := by
  have hskip : skipSpaces (c :: text) = c :: text := by
    simp [skipSpaces, isSpace_of_isBareChar hc]
  have hcomment : c ≠ '#' := ne_of_isBareChar hc (by decide)
  have hfeed : c ≠ '\n' := ne_of_isBareChar hc (by decide)
  have hreturn : c ≠ '\r' := ne_of_isBareChar hc (by decide)
  simp [endLine, hskip, skipComment, hcomment, lineEnd?, readLineEnd, hfeed, hreturn]

lemma readKeyPart_of_isBareKey {name : String} (h : isBareKey name = true) (rest : List Char) :
    readKeyPart (name.toList ++ ' ' :: rest) = some (name, ' ' :: rest) := by
  obtain ⟨c, more, hname, hc⟩ := exists_cons_of_isBareKey h
  have hkey : (name.toList ++ ' ' :: rest).takeWhile isBareChar = name.toList := by
    have hblank : (' ' :: rest).takeWhile isBareChar = [] := rfl
    rw [List.takeWhile_append_of_pos (isBareChar_of_isBareKey h), hblank, List.append_nil]
  unfold readKeyPart
  split
  · rename_i heq
    rw [hname] at heq
    exact absurd (List.cons.inj heq).1 (ne_of_isBareChar hc (by decide))
  · rename_i heq
    rw [hname] at heq
    exact absurd (List.cons.inj heq).1 (ne_of_isBareChar hc (by decide))
  · have hne : name.toList.isEmpty = false := by simp [hname]
    simp [hkey, hne]

lemma readKey_of_isBareKey {name : String} (h : isBareKey name = true) (rest : List Char) :
    readKey (name.toList ++ ' ' :: '=' :: rest) = some ([name], '=' :: rest) := by
  rw [readKey, readKeyParts, readKeyPart_of_isBareKey h]
  rfl

/-- A line with a value under a bare key adds the value to the table of the last header. -/
lemma readsLine_value {name : String} {d : Char} {written : List Char} {value : Value}
    {root : Table} (hname : isBareKey name = true)
    (hline : line.toList = name.toList ++ ' ' :: '=' :: ' ' :: d :: written)
    (hstart : isSpace d = false)
    (hvalue : ∀ rest, readValue greatestDepth (d :: written ++ '\n' :: rest) =
      some (value, '\n' :: rest))
    (hassign : enterAll (assign value true [name]) state.header state.root = some root) :
    ReadsLine state line { state with root := root } := by
  intro rest
  obtain ⟨c, more, hfirst, hc⟩ := exists_cons_of_isBareKey hname
  have hskip : skipSpaces (' ' :: d :: written ++ '\n' :: rest) = d :: written ++ '\n' :: rest := by
    have hblank : isSpace ' ' = true := rfl
    simp [skipSpaces, hblank, hstart]
  have hpair : readPair (some ∘ skipSpaces) (readValue greatestDepth)
      (line.toList ++ '\n' :: rest) = some (([name], value), '\n' :: rest) := by
    have htext : line.toList ++ '\n' :: rest =
        name.toList ++ ' ' :: '=' :: (' ' :: d :: written ++ '\n' :: rest) := by
      simp [hline]
    rw [readPair, htext, readKey_of_isBareKey hname]
    show (readValue greatestDepth (skipSpaces (' ' :: d :: written ++ '\n' :: rest)) >>= _) = _
    rw [hskip, hvalue]
    rfl
  have htext : line.toList ++ '\n' :: rest =
      c :: (more ++ ' ' :: '=' :: ' ' :: d :: written ++ '\n' :: rest) := by
    simp [hline, hfirst]
  rw [htext] at hpair ⊢
  have hbracket : c ≠ '[' := ne_of_isBareChar hc (by decide)
  rw [readLine_of_ne state hbracket (isSpace_of_isBareChar hc), endLine_of_isBareChar hc, hpair]
  show (enterAll (assign value true [name]) state.header state.root >>= _) = _
  rw [hassign]
  rfl

/-! ## Text between quotes -/

/-- Whether some characters are read as a text where they stand between double quotes. -/
def IsWritten (written text : List Char) : Prop :=
  ∀ rest bound, written.length < bound →
    readBasic bound (written ++ '"' :: rest) = some (text, rest)

lemma isWritten_nil : IsWritten [] [] := by
  intro rest bound hbound
  cases bound with
  | zero => simp at hbound
  | succ bound => rfl

lemma IsWritten.cons_plain {c : Char} {written text : List Char} (hc : isPlain c = true)
    (hquote : c ≠ '"') (hbackslash : c ≠ '\\') (h : IsWritten written text) :
    IsWritten (c :: written) (c :: text) := by
  intro rest bound hbound
  cases bound with
  | zero => simp at hbound
  | succ bound =>
    have hrest := h rest bound (Nat.lt_of_succ_lt_succ hbound)
    rw [List.cons_append, readBasic, if_neg hquote, if_neg hbackslash, if_pos hc, hrest]
    rfl

lemma IsWritten.cons_escaped {c : Char} {written text : List Char} (hc : c = '"' ∨ c = '\\')
    (h : IsWritten written text) : IsWritten ('\\' :: c :: written) (c :: text) := by
  intro rest bound hbound
  cases bound with
  | zero => simp at hbound
  | succ bound =>
    have hlength : written.length < bound := by
      simp only [List.length_cons] at hbound
      omega
    have hrest := h rest bound hlength
    have hescape : readEscape (c :: (written ++ '"' :: rest)) =
        some (c, written ++ '"' :: rest) := by
      obtain rfl | rfl := hc <;> rfl
    rw [List.cons_append, List.cons_append, readBasic, if_neg (by decide), if_pos rfl, hescape]
    show (readBasic bound (written ++ '"' :: rest) >>= _) = _
    rw [hrest]
    rfl

/-- What is written between quotes is the value of a line. -/
lemma IsWritten.readValue_eq {written text : List Char} (h : IsWritten written text)
    (hquotes : written.head? ≠ some '"') (rest : List Char) :
    readValue greatestDepth ('"' :: (written ++ ['"']) ++ '\n' :: rest) =
      some (.string (String.ofList text), '\n' :: rest) := by
  have htext : '"' :: (written ++ ['"']) ++ '\n' :: rest =
      '"' :: (written ++ '"' :: '\n' :: rest) := by simp
  have hlength : written.length < (written ++ '"' :: '\n' :: rest).length + 1 := by
    rw [List.length_append]
    omega
  -- Right behind the opening quote there are no two further ones.
  have hsingle : ∀ more, written ++ '"' :: '\n' :: rest ≠ '"' :: '"' :: more := by
    intro more heq
    cases written with
    | nil => simp at heq
    | cons c behind => exact hquotes (congrArg some (List.cons.inj heq).1)
  rw [htext, readValue, h _ _ hlength]
  · rfl
  · exact hsingle

end EntSchema.Toml

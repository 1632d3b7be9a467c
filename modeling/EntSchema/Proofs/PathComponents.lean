import EntSchema.Path
import Mathlib.Data.List.Basic

/-!
# Components of joined paths

The components of a path are what it starts with and the names between its slashes.  Both come apart
along a join: `components_join` says that the components of a relative path in a directory are those
of the directory followed by those of the path, for every spelling of the directory.  The stem of a
file name can be read off its components whatever ending the name has, slashes in the ending
included (`exists_components_of_stem`).

The order of paths is the lexicographic one of their components, so it is transitive, and paths
compare equal exactly when they have the same components (`cmp_eq_iff`).
-/

namespace EntSchema

namespace Path

/-! ## Start and names -/

/-- The component that a path starts with: the root, or the dot of a relative path. -/
def start : List Char → List Component
  | '/' :: _ => [.root]
  | ['.'] => [.here]
  | '.' :: '/' :: _ => [.here]
  | _ => []

/-- The components that the parts between slashes name. -/
def namedParts (text : List Char) : List Component :=
  ((text.splitOn '/').filter (!isSilent ·)).map Component.ofPart

lemma components_eq (path : Path) :
    path.components = start path.text.toList ++ namedParts path.text.toList := by
  unfold components anatomy start namedParts
  split <;> simp_all [Component.ofHead, List.splitOn_cons_eq_if_modifyHead, isSilent]

lemma start_append {text more : List Char} (h : text ≠ [])
    (hdot : text = ['.'] → more.head? = some '/') : start (text ++ more) = start text := by
  obtain ⟨c, rest, rfl⟩ := List.exists_cons_of_ne_nil h
  by_cases hslash : c = '/'
  · subst hslash; rfl
  by_cases hc : c = '.'
  · subst hc
    cases rest with
    | nil =>
      obtain ⟨more, rfl⟩ := List.head?_eq_some_iff.1 (hdot rfl)
      rfl
    | cons d rest =>
      by_cases hd : d = '/'
      · subst hd; rfl
      · simp [start, hd]
  · simp [start, hslash, hc]

lemma namedParts_append_slash (text rest : List Char) :
    namedParts (text ++ '/' :: rest) = namedParts text ++ namedParts rest := by
  simp [namedParts, List.splitOn_append_cons_self]

/-! ## Joining -/

/-- Whether a path is a file name: it does not start with a slash or a dot. -/
def IsFileName (path : Path) : Prop :=
  ∃ c rest, path.text.toList = c :: rest ∧ c ≠ '/' ∧ c ≠ '.'

lemma IsFileName.start_eq {path : Path} (h : path.IsFileName) : start path.text.toList = [] := by
  obtain ⟨c, rest, htext, hslash, hdot⟩ := h
  rw [htext]
  unfold start
  split <;> simp_all

lemma IsFileName.components_eq {path : Path} (h : path.IsFileName) :
    path.components = namedParts path.text.toList := by
  rw [Path.components_eq, h.start_eq, List.nil_append]

/-- The components of a path without a start in a directory are those of both, however the directory
is spelled. -/
lemma components_join (directory : Path) {path : Path} (h : start path.text.toList = []) :
    (directory.join path).components = directory.components ++ path.components := by
  have hrelative : path.isAbsolute = false := by
    refine Bool.eq_false_iff.2 fun habsolute => ?_
    have hhead : path.text.toList.head? = some '/' := by simpa [isAbsolute] using habsolute
    obtain ⟨rest, hrest⟩ := List.head?_eq_some_iff.1 hhead
    rw [hrest] at h
    exact absurd h (by simp [start])
  rw [Path.components_eq path, h, List.nil_append, Path.components_eq directory]
  unfold join
  rw [hrelative, if_neg (by simp)]
  by_cases hempty : directory.text = ""
  · rw [if_pos (by simp [hempty]), Path.components_eq, hempty, String.empty_append, h]
    rfl
  have hne : directory.text.toList ≠ [] := by simpa using hempty
  by_cases hlast : directory.text.toList.getLast? = some '/'
  · -- The slash that the directory ends in separates already; behind it there is no name.
    obtain ⟨before, hbefore⟩ := List.getLast?_eq_some_iff.1 hlast
    have hdots : directory.text.toList ≠ ['.'] := by
      intro hdots
      rw [hdots] at hlast
      exact absurd hlast (by decide)
    have hsplit : namedParts (directory.text.toList ++ path.text.toList) =
        namedParts directory.text.toList ++ namedParts path.text.toList := by
      rw [hbefore, List.append_assoc, List.singleton_append, namedParts_append_slash,
        namedParts_append_slash]
      simp [namedParts, isSilent]
    rw [if_pos (by simp [hlast]), Path.components_eq, String.toList_append,
      start_append hne (absurd · hdots), hsplit, List.append_assoc]
  · rw [if_neg (by simp [hempty, hlast]), Path.components_eq]
    have htext : (directory.text ++ "/" ++ path.text).toList =
        directory.text.toList ++ '/' :: path.text.toList := by simp
    rw [htext, start_append hne fun _ => rfl, namedParts_append_slash, List.append_assoc]

/-! ## Stems -/

/-- Whether a text can be the stem of a file name: it has characters, but no slash and no dot. -/
def IsStem (stem : String) : Prop :=
  stem.toList ≠ [] ∧ '/' ∉ stem.toList ∧ '.' ∉ stem.toList

lemma IsStem.exists_cons {stem : String} (h : IsStem stem) :
    ∃ c rest, stem.toList = c :: rest ∧ c ≠ '/' ∧ c ≠ '.' := by
  obtain ⟨c, rest, hstem⟩ := List.exists_cons_of_ne_nil h.1
  refine ⟨c, rest, hstem, fun hc => h.2.1 ?_, fun hc => h.2.2 ?_⟩ <;> simp [hstem, hc]

lemma IsStem.isFileName {stem : String} (h : IsStem stem) (ending : String) :
    IsFileName ⟨stem ++ "." ++ ending⟩ := by
  obtain ⟨c, rest, hstem, hslash, hdot⟩ := h.exists_cons
  exact ⟨c, rest ++ '.' :: ending.toList, by simp [hstem], hslash, hdot⟩

/-- A text without separators runs on into the first part of what follows it. -/
lemma splitOn_append_of_notMem {separator : Char} {text rest part : List Char}
    {parts : List (List Char)} (h : separator ∉ text)
    (hsplit : rest.splitOn separator = part :: parts) :
    (text ++ rest).splitOn separator = (text ++ part) :: parts := by
  induction text with
  | nil => exact hsplit
  | cons c text ih =>
    obtain ⟨hc, htext⟩ := not_or.1 (mt List.mem_cons.2 h)
    have hne : (c == separator) = false := by simpa using Ne.symm hc
    rw [List.cons_append, List.splitOn_cons_eq_if_modifyHead, hne, ih htext]
    rfl

/-- With an ending a stem is the beginning of the first component; what stands behind the stem does
not depend on it. -/
lemma exists_components_of_stem (ending : String) :
    ∃ part tail, ∀ stem, IsStem stem →
      (Path.mk (stem ++ "." ++ ending)).components = .name (stem.toList ++ part) :: tail := by
  obtain ⟨part, parts, hsplit⟩ :=
    List.exists_cons_of_ne_nil (List.splitOn_ne_nil '/' ('.' :: ending.toList))
  refine ⟨part, (parts.filter (!isSilent ·)).map Component.ofPart, fun stem h => ?_⟩
  obtain ⟨c, rest, hstem, hslash, hdot⟩ := h.exists_cons
  have htext : (stem ++ "." ++ ending).toList = stem.toList ++ '.' :: ending.toList := by simp
  have hsounds : isSilent (stem.toList ++ part) = false := by simp [isSilent, hstem, hdot]
  have hname : Component.ofPart (stem.toList ++ part) = .name (stem.toList ++ part) :=
    if_neg (by simp [hstem, hdot])
  rw [(h.isFileName ending).components_eq, htext, namedParts,
    splitOn_append_of_notMem h.2.1 hsplit, List.filter_cons_of_pos (by simp [hsounds]),
    List.map_cons, hname]

/-! ## Order -/

lemma cmpComponents_eq : cmpComponents = List.compareLex Component.cmp := by
  funext as bs
  induction as generalizing bs with
  | nil => cases bs <;> rfl
  | cons a as ih =>
    cases bs with
    | nil => rfl
    | cons b bs => rw [cmpComponents, ih, List.compareLex_cons_cons]

/-- The text of a name; nothing for the other components. -/
def Component.nameText : Component → String
  | .name text => String.ofList text
  | _ => ""

lemma Component.cmp_eq :
    Component.cmp = compareLex (compareOn Component.rank) (compareOn Component.nameText) := by
  funext a b
  cases a <;> cases b <;>
    simp [Component.cmp, compareLex, compareOn, rank, nameText, Nat.compare_eq_ite_lt]

instance : Std.TransCmp Component.cmp := by
  rw [Component.cmp_eq]
  infer_instance

instance : Std.LawfulEqCmp Component.cmp where
  eq_of_compare {a b} h := by
    rw [Component.cmp_eq, compareLex_eq_eq] at h
    obtain ⟨hrank, htext⟩ := h
    cases a <;> cases b <;>
      simp_all [compareOn, Component.rank, Component.nameText, String.ofList_inj]

instance : Std.TransCmp cmpComponents := by
  rw [cmpComponents_eq]
  infer_instance

instance : Std.LawfulEqCmp cmpComponents := by
  rw [cmpComponents_eq]
  infer_instance

instance : Std.TransCmp cmp where
  eq_swap {a b} := by
    show cmpComponents a.components b.components = _
    exact Std.OrientedCmp.eq_swap
  isLE_trans {a b c} hab hbc := by
    show (cmpComponents a.components c.components).isLE = true
    exact Std.TransCmp.isLE_trans hab hbc

/-- Paths compare equal exactly when they have the same components. -/
lemma cmp_eq_iff {a b : Path} : cmp a b = .eq ↔ a.components = b.components := by
  show cmpComponents a.components b.components = .eq ↔ _
  exact Std.LawfulEqCmp.compare_eq_iff_eq

end Path

end EntSchema

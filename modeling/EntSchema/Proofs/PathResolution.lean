import EntSchema.FileTree
import Mathlib.Data.List.Basic
import Mathlib.Tactic.SplitIfs

/-!
# The place that a path denotes

`Path.resolve` reads the place that a path denotes off its text alone: seen from a working
directory, the parts between the slashes are followed one after another, a dot stays, two dots go
up, and whether there is anything on the way is not asked.  Where a path leads in a tree is the
place that it denotes (`FileTree.location_of_find`).

A path taken apart into its start and its parts can be put together again (`ofParts_anatomy`), and
what is left after parts at the end are taken away starts like the path itself (`of_isPrefix`).  So
places can be followed along the parts of an anatomy (`resolve_ofParts`, `resolve_eq`).
-/

namespace EntSchema

namespace Path

/-- Where a part between slashes leads from a place: nowhere else when it names nothing, and up for
two dots. -/
def enter (place : Location) (part : List Char) : Location :=
  if isSilent part then place
  else if part = ['.', '.'] then place.dropLast
  else place ++ [String.ofList part]

/-- The place that a path denotes, seen from a working directory: the parts between its slashes are
followed one after another, whatever stands there. -/
def resolve (working : Location) (path : Path) : Location :=
  (path.text.toList.splitOn '/').foldl enter (if path.isAbsolute then [] else working)

lemma enter_of_isSilent {part : List Char} (h : isSilent part = true) (place : Location) :
    enter place part = place := if_pos h

lemma foldl_enter_of_isSilent {parts : List (List Char)}
    (h : ∀ part ∈ parts, isSilent part = true) (place : Location) :
    parts.foldl enter place = place := by
  induction parts with
  | nil => rfl
  | cons part rest ih =>
    obtain ⟨hpart, hrest⟩ := List.forall_mem_cons.1 h
    rw [List.foldl_cons, enter_of_isSilent hpart, ih hrest]

/-- The place from which the parts of a path are followed. -/
def Anatomy.origin (anatomy : Anatomy) (working : Location) : Location :=
  if anatomy.head = ['/'] then [] else working

/-- Whether a text that is put together of a start and some parts has no other start: no part holds
a slash, behind a dot there is one, and without a start the text does not begin with one. -/
structure Anatomy.IsSound (anatomy : Anatomy) : Prop where
  slash : ∀ part ∈ anatomy.parts, '/' ∉ part
  start : anatomy.head = ['/'] ∨
    anatomy.head = ['.'] ∧ (∀ part ∈ anatomy.parts.head?, part = []) ∨
    anatomy.head = [] ∧ ∀ rest, anatomy.parts = [] :: rest → rest = []

lemma notMem_of_mem_splitOn {separator : Char} {text part : List Char}
    (h : part ∈ text.splitOn separator) : separator ∉ part := by
  induction text generalizing part with
  | nil =>
    rw [List.splitOn_nil, List.mem_singleton] at h
    simp [h]
  | cons c rest ih =>
    obtain ⟨first, parts, hsplit⟩ := List.exists_cons_of_ne_nil (List.splitOn_ne_nil separator rest)
    rw [hsplit] at ih
    rw [List.splitOn_cons_eq_if_modifyHead, hsplit] at h
    split at h
    · rcases List.mem_cons.1 h with rfl | h
      · simp
      · exact ih h
    · rename_i hc
      rcases List.mem_cons.1 h with rfl | h
      · rw [List.mem_cons, not_or]
        exact ⟨fun heq => hc (by simp [heq]), ih List.mem_cons_self⟩
      · exact ih (List.mem_cons_of_mem _ h)

lemma isSound_anatomy (path : Path) : path.anatomy.IsSound := by
  unfold anatomy
  split
  case h_1 => exact ⟨fun part hpart => notMem_of_mem_splitOn hpart, .inl rfl⟩
  case h_2 => exact ⟨by simp, .inr (.inl (by simp))⟩
  case h_3 =>
    refine ⟨fun part hpart => ?_, .inr (.inl (by simp))⟩
    rcases List.mem_cons.1 hpart with rfl | hpart
    · simp
    · exact notMem_of_mem_splitOn hpart
  case h_4 hslash _ _ =>
    refine ⟨fun part hpart => notMem_of_mem_splitOn hpart, .inr (.inr ⟨rfl, ?_⟩)⟩
    intro rest hrest
    have hsplit : path.text.toList.splitOn '/' = [] :: rest := hrest
    have hjoin : ['/'].intercalate (path.text.toList.splitOn '/') = path.text.toList :=
      List.intercalate_splitOn '/'
    cases rest with
    | nil => rfl
    | cons part rest =>
      rw [hsplit, List.intercalate_cons_cons] at hjoin
      exact (hslash _ hjoin.symm).elim

/-- The parts of a path, put together again, are the path. -/
lemma ofParts_anatomy (path : Path) : ofParts path.anatomy.head path.anatomy.parts = path := by
  have htext : path.anatomy.head ++ ['/'].intercalate path.anatomy.parts = path.text.toList := by
    unfold anatomy
    split
    case h_1 rest htext => simp [htext]
    case h_2 htext => simp [htext]
    case h_3 rest htext =>
      obtain ⟨part, parts, hsplit⟩ := List.exists_cons_of_ne_nil (List.splitOn_ne_nil '/' rest)
      have hjoin : ['/'].intercalate (rest.splitOn '/') = rest := List.intercalate_splitOn '/'
      rw [hsplit] at hjoin
      simp [htext, hsplit, List.intercalate_cons_cons, hjoin]
    case h_4 => simp
  rw [ofParts, htext, String.ofList_toList]

/-- What is left of the parts at the front is sound as well. -/
lemma Anatomy.IsSound.of_isPrefix {head : List Char} {parts kept : List (List Char)}
    (h : Anatomy.IsSound ⟨head, parts⟩) (hkept : kept <+: parts) :
    Anatomy.IsSound ⟨head, kept⟩ := by
  obtain ⟨more, rfl⟩ := hkept
  refine ⟨fun part hpart => h.slash part (List.mem_append_left _ hpart), ?_⟩
  rcases h.start with hroot | ⟨hdot, hfirst⟩ | ⟨hnone, halone⟩
  · exact .inl hroot
  · refine .inr (.inl ⟨hdot, fun part hpart => hfirst part ?_⟩)
    cases kept with
    | nil => simp at hpart
    | cons first rest => simpa using hpart
  · refine .inr (.inr ⟨hnone, ?_⟩)
    rintro rest rfl
    exact (List.append_eq_nil_iff.1 (halone (rest ++ more) rfl)).1

lemma resolve_eq_of_intercalate {working : Location} {path : Path} {parts : List (List Char)}
    (hne : parts ≠ []) (hslash : ∀ part ∈ parts, '/' ∉ part)
    (htext : path.text.toList = ['/'].intercalate parts) :
    path.resolve working = parts.foldl enter (if path.isAbsolute then [] else working) := by
  rw [resolve, htext, List.splitOn_intercalate '/' hslash hne]

/-- The parts of a path are followed from its origin. -/
lemma resolve_ofParts {anatomy : Anatomy} (h : anatomy.IsSound) (working : Location) :
    (ofParts anatomy.head anatomy.parts).resolve working =
      anatomy.parts.foldl enter (anatomy.origin working) := by
  obtain ⟨head, parts⟩ := anatomy
  dsimp only
  rcases h.start with hroot | ⟨hhere, hfirst⟩ | ⟨hnone, halone⟩
  case inl =>
    -- The slash at the start stands behind an empty part.
    obtain rfl : head = ['/'] := hroot
    cases parts with
    | nil => rfl
    | cons part rest =>
      have htext : (ofParts ['/'] (part :: rest)).text.toList =
          ['/'].intercalate ([] :: part :: rest) := by
        simp [ofParts, List.intercalate_cons_cons]
      have hslash : ∀ other ∈ [] :: part :: rest, '/' ∉ other :=
        List.forall_mem_cons.2 ⟨List.not_mem_nil, h.slash⟩
      have habsolute : (ofParts ['/'] (part :: rest)).isAbsolute = true := by
        simp [ofParts, isAbsolute]
      rw [resolve_eq_of_intercalate (by simp) hslash htext, habsolute]
      rfl
  case inr.inl =>
    obtain rfl : head = ['.'] := hhere
    cases parts with
    | nil => rfl
    | cons part rest =>
      obtain rfl : part = [] := hfirst part rfl
      have htext : (ofParts ['.'] ([] :: rest)).text.toList =
          ['/'].intercalate (['.'] :: rest) := by
        cases rest <;> simp [ofParts, List.intercalate_cons_cons]
      have hslash : ∀ other ∈ ['.'] :: rest, '/' ∉ other :=
        List.forall_mem_cons.2 ⟨by decide, (List.forall_mem_cons.1 h.slash).2⟩
      have hrelative : (ofParts ['.'] ([] :: rest)).isAbsolute = false := by
        cases rest <;> simp [ofParts, isAbsolute]
      rw [resolve_eq_of_intercalate (by simp) hslash htext, hrelative]
      rfl
  case inr.inr =>
    obtain rfl : head = [] := hnone
    cases parts with
    | nil => rfl
    | cons part rest =>
      have htext : (ofParts [] (part :: rest)).text.toList = ['/'].intercalate (part :: rest) := by
        simp [ofParts]
      have hrelative : (ofParts [] (part :: rest)).isAbsolute = false := by
        refine Bool.eq_false_iff.2 fun habsolute => ?_
        rw [isAbsolute, beq_iff_eq, htext] at habsolute
        cases part with
        | nil =>
          obtain rfl : rest = [] := halone rest rfl
          simp at habsolute
        | cons c more =>
          have hc : c = '/' := by
            cases rest <;> simpa [List.intercalate_cons_cons] using habsolute
          exact h.slash (c :: more) List.mem_cons_self (by simp [hc])
      rw [resolve_eq_of_intercalate (by simp) h.slash htext, hrelative]
      rfl

/-- A path is followed from its origin along its parts. -/
lemma resolve_eq (working : Location) (path : Path) :
    path.resolve working = path.anatomy.parts.foldl enter (path.anatomy.origin working) := by
  have hparts := resolve_ofParts (isSound_anatomy path) working
  rwa [ofParts_anatomy] at hparts

end Path

/-! ## Places in a tree -/

namespace FileTree

/-- A walk along names ends where the names lead. -/
lemma location_of_walk {tree : FileTree} {start : Location} {parts : List String}
    {destination : Destination} (hparts : "" ∉ parts)
    (h : tree.walk start parts = .ok destination) :
    destination.location = parts.foldl (fun place part => Path.enter place part.toList) start := by
  induction parts generalizing start with
  | nil =>
    rw [walk, Except.ok.injEq] at h
    simp [← h, Destination.location]
  | cons part rest ih =>
    obtain ⟨hpart, hrest⟩ := not_or.1 (mt List.mem_cons.2 hparts)
    have henter : Path.enter start part.toList =
        if part = "." then start else if part = ".." then start.dropLast else start ++ [part] := by
      have hempty : part.toList ≠ [] := by simpa using Ne.symm hpart
      have hdot : Path.isSilent part.toList = true ↔ part = "." := by
        rw [← String.toList_inj]
        simp [Path.isSilent, hempty]
      have hdots : part.toList = ['.', '.'] ↔ part = ".." := by
        rw [← String.toList_inj]
        rfl
      simp only [Path.enter, hdot, hdots, String.ofList_toList]
    rw [walk] at h
    rw [List.foldl_cons, henter]
    split_ifs at h ⊢ with hdot hup hlong hlast
    · exact ih hrest h
    · exact ih hrest h
    · cases h
      subst hlast
      rfl
    · cases hnode : tree.node? (start ++ [part]) with
      | none => simp [hnode] at h
      | some node =>
        cases node with
        | file content => simp [hnode] at h
        | directory =>
          rw [hnode] at h
          exact ih hrest h

/-- Where a path leads in a tree is the place that it denotes. -/
lemma location_of_locate {tree : FileTree} {path : Path} {destination : Destination}
    (h : tree.locate path = .ok destination) :
    destination.location = path.resolve tree.working := by
  have hparts : "" ∉ partsOf path := by simp [partsOf]
  have hfold (place : Location) :
      (partsOf path).foldl (fun place part => Path.enter place part.toList) place =
        (path.text.toList.splitOn '/').foldl Path.enter place := by
    have hkept : (fun (place : Location) (part : List Char) =>
        if decide (part ≠ []) = true then Path.enter place part else place) = Path.enter := by
      funext place part
      by_cases hempty : part = []
      · simp [hempty, Path.enter, Path.isSilent]
      · simp [hempty]
    simp only [partsOf, List.foldl_map, String.toList_ofList, List.foldl_filter, hkept]
  unfold locate at h
  split_ifs at h with hzero hempty hlong hroot
  · rw [location_of_walk hparts h, hfold, Path.resolve, if_pos hroot]
  · rw [location_of_walk hparts h, hfold, Path.resolve, if_neg hroot]

lemma location_of_find {tree : FileTree} {path : Path} {location : Location} {node : FileNode}
    (h : tree.find path = .ok (location, node)) : location = path.resolve tree.working := by
  unfold find at h
  cases hlocate : tree.locate path with
  | error fault => simp [hlocate, bind, Except.bind] at h
  | ok destination =>
    rw [← location_of_locate hlocate]
    cases hnode : tree.node? destination.location with
    | none => simp [hlocate, hnode, bind, Except.bind] at h
    | some found =>
      cases found with
      | directory =>
        simp [hlocate, hnode, bind, Except.bind, pure, Except.pure] at h
        exact h.1.symm
      | file content =>
        cases hslash : endsInSlash path <;>
          simp [hlocate, hnode, hslash, bind, Except.bind, pure, Except.pure] at h
        exact h.1.symm

end FileTree

end EntSchema

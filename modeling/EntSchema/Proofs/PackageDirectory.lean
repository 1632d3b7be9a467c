import EntSchema.Command.Session
import EntSchema.Proofs.PathResolution
import EntSchema.Settings.Validation
import Mathlib.Data.List.DropRight

/-!
# The package directory

The `go generate` step is to run in the directory that holds the schema directory.  The package
directory is read off the text of the schema directory: the last part that names something is taken
away, and where that leaves nothing a dot stands for the working directory.

The main result, `packageDirectory_is_above_iff`, says when this is the directory above.  It is when
the schema directory ends in a name, however dots, two dots and slashes stand around it.  When it
ends in a dot, in two dots or at the root there is no name to take away; then the package directory
is above the schema directory only where nothing is above, at the root.
-/

namespace EntSchema

namespace Path

/-! ## The last part of a path -/

lemma trimParts_eq (parts : List (List Char)) : trimParts parts = parts.rdropWhile isSilent := rfl

lemma trimParts_isPrefix (parts : List (List Char)) : trimParts parts <+: parts :=
  List.rdropWhile_prefix isSilent parts

/-- Only parts that name nothing are trimmed. -/
lemma exists_trimParts_append (parts : List (List Char)) :
    ∃ silent, parts = trimParts parts ++ silent ∧ ∀ part ∈ silent, isSilent part = true :=
  ⟨parts.rtakeWhile isSilent, List.rdropWhile_append_rtakeWhile.symm,
    fun _ hpart => List.mem_rtakeWhile_imp hpart⟩

lemma foldl_enter_trimParts (parts : List (List Char)) (place : Location) :
    (trimParts parts).foldl enter place = parts.foldl enter place := by
  obtain ⟨silent, hparts, hsilent⟩ := exists_trimParts_append parts
  conv_rhs => rw [hparts, List.foldl_append, foldl_enter_of_isSilent hsilent]

section Last

variable {path : Path} {before : List (List Char)} {last : List Char}

lemma isSilent_last (h : trimParts path.anatomy.parts = before ++ [last]) :
    isSilent last = false := by
  have hne : path.anatomy.parts.rdropWhile isSilent ≠ [] := by
    rw [← trimParts_eq, h]
    simp
  have hlast := List.rdropWhile_last_not isSilent path.anatomy.parts hne
  simpa [← trimParts_eq, h] using hlast

/-- What stands between the slashes of a path and names something. -/
lemma filter_parts_eq (h : trimParts path.anatomy.parts = before ++ [last]) :
    path.anatomy.parts.filter (!isSilent ·) = before.filter (!isSilent ·) ++ [last] := by
  obtain ⟨silent, hparts, hsilent⟩ := exists_trimParts_append path.anatomy.parts
  have hnothing : silent.filter (!isSilent ·) = [] := by simpa using hsilent
  rw [hparts, h, List.filter_append, List.filter_append, hnothing]
  simp [isSilent_last h]

/-- The last part is the name at the end of a path, unless it goes up. -/
lemma fileName?_eq (h : trimParts path.anatomy.parts = before ++ [last]) :
    path.fileName? = if last = ['.', '.'] then none else some (String.ofList last) := by
  have hlast : path.components.getLast? = some (Component.ofPart last) := by
    simp [components, filter_parts_eq h]
  rw [fileName?, hlast, Component.ofPart]
  split_ifs <;> rfl

lemma fileName?_eq_none (h : trimParts path.anatomy.parts = []) : path.fileName? = none := by
  have hsilent : ∀ part ∈ path.anatomy.parts, isSilent part = true :=
    List.rdropWhile_eq_nil_iff.1 h
  have hcomponents : path.components = Component.ofHead path.anatomy.head := by
    simpa [components] using hsilent
  have hstart : Component.ofHead path.anatomy.head ∈ [[], [.root], [.here]] := by
    unfold Component.ofHead
    split <;> simp
  rw [fileName?, hcomponents]
  simp only [List.mem_cons, List.not_mem_nil, or_false] at hstart
  rcases hstart with hstart | hstart | hstart <;> rw [hstart] <;> rfl

/-! ## The package directory -/

/-- The empty path and a dot denote the same place. -/
lemma resolve_orDot (parent : Path) (working : Location) :
    (if parent.text.isEmpty then ⟨"."⟩ else parent : Path).resolve working =
      parent.resolve working := by
  split_ifs with hempty
  · obtain ⟨text⟩ := parent
    obtain rfl : text = "" := by simpa using hempty
    rfl
  · rfl

lemma resolve_packageDirectory (h : trimParts path.anatomy.parts = before ++ [last])
    (working : Location) :
    path.packageDirectory.resolve working = before.foldl enter (path.anatomy.origin working) := by
  have hparent : path.parent? = some (ofParts path.anatomy.head (trimParts before)) := by
    simp [parent?, h]
  have hprefix : trimParts before <+: path.anatomy.parts := by
    have hbefore : before <+: trimParts path.anatomy.parts := h ▸ List.prefix_append before [last]
    exact (trimParts_isPrefix before).trans (hbefore.trans (trimParts_isPrefix _))
  have hsound : Anatomy.IsSound ⟨path.anatomy.head, trimParts before⟩ :=
    (isSound_anatomy path).of_isPrefix hprefix
  rw [packageDirectory, hparent]
  dsimp only
  rw [resolve_orDot, resolve_ofParts hsound, foldl_enter_trimParts]
  rfl

lemma packageDirectory_eq_dot (h : trimParts path.anatomy.parts = []) :
    path.packageDirectory = ⟨"."⟩ := by
  have hparent : path.parent? = if path.anatomy.head = ['.'] then some ⟨""⟩ else none := by
    simp [parent?, h]
  rw [packageDirectory, hparent]
  split_ifs <;> rfl

/-- A path denotes where its last part leads from the package directory. -/
lemma resolve_eq_enter (h : trimParts path.anatomy.parts = before ++ [last]) (working : Location) :
    path.resolve working = enter (path.packageDirectory.resolve working) last := by
  rw [resolve_eq, ← foldl_enter_trimParts, h, List.foldl_append, resolve_packageDirectory h]
  rfl

/-- Without parts that name something a path denotes the working directory or the root. -/
lemma resolve_eq_origin (h : trimParts path.anatomy.parts = []) (working : Location) :
    path.resolve working = path.anatomy.origin working := by
  rw [resolve_eq, ← foldl_enter_trimParts, h]
  rfl

end Last

/-- A directory that ends in a name stands right below its package directory. -/
lemma resolve_eq_of_fileName? {path : Path} {name : String} (h : path.fileName? = some name)
    (working : Location) :
    path.resolve working = path.packageDirectory.resolve working ++ [name] := by
  rcases List.eq_nil_or_concat (trimParts path.anatomy.parts) with hnone | ⟨before, last, hlast⟩
  · rw [fileName?_eq_none hnone] at h
    exact absurd h (by simp)
  · rw [List.concat_eq_append] at hlast
    rw [fileName?_eq hlast] at h
    split_ifs at h with hup
    obtain rfl := Option.some.inj h
    rw [resolve_eq_enter hlast, enter, isSilent_last hlast, if_neg (by simp), if_neg hup]

/-- A path that does not end in a name stands right below its package directory at the root only. -/
lemma resolve_packageDirectory_eq_iff {path : Path} (h : path.fileName? = none)
    (working : Location) :
    path.packageDirectory.resolve working = (path.resolve working).dropLast ↔
      path.packageDirectory.resolve working = [] := by
  have hshort {place : Location} (hlength : place.length ≤ place.length - 1) : place = [] :=
    List.eq_nil_of_length_eq_zero (by omega)
  rcases List.eq_nil_or_concat (trimParts path.anatomy.parts) with hnone | ⟨before, last, hlast⟩
  · have hdot : (Path.mk ".").resolve working = working := rfl
    rw [packageDirectory_eq_dot hnone, resolve_eq_origin hnone, hdot, Anatomy.origin]
    split_ifs
    · rfl
    · refine ⟨fun hplace => hshort ?_, fun hplace => by rw [hplace]; rfl⟩
      rw [← List.length_dropLast, ← hplace]
  · rw [List.concat_eq_append] at hlast
    rw [fileName?_eq hlast] at h
    split_ifs at h with hup
    rw [resolve_eq_enter hlast, enter, isSilent_last hlast, if_neg (by simp), if_pos hup]
    refine ⟨fun hplace => hshort ?_, fun hplace => by rw [hplace]; rfl⟩
    have hlength := congrArg List.length hplace
    rw [List.length_dropLast, List.length_dropLast] at hlength
    omega

end Path

/-! ## Where the step runs -/

/-- The `go` program runs in the place that its path denotes. -/
lemma Session.goGenerate_eq_ok {session next : Session} {path : Path} {ending : Ending}
    (h : session.goGenerate path = (.ok ending, next)) :
    ∃ program, session.goProgram? = some program ∧
      next = session.print (program.printed (path.resolve session.tree.working)) := by
  unfold goGenerate at h
  split at h
  · simp at h
  · simp at h
  · simp at h
  · rename_i location program hfind hprogram
    have hplace := FileTree.location_of_find hfind
    refine ⟨program, hprogram, ?_⟩
    rw [← hplace]
    simpa using (congrArg Prod.snd h).symm

/-- **The step runs above the schema directory**, wherever it runs, exactly when the path of the
directory ends in a name, or all of this is at the root. -/
theorem packageDirectory_is_above_iff (session : Session) (directory : Path) :
    let place := directory.resolve session.tree.working
    let package := directory.packageDirectory.resolve session.tree.working
    (package = place.dropLast ↔ directory.fileName?.isSome = true ∨ package = []) ∧
    (directory.fileName?.isSome = true → package ≠ place) ∧
    ∀ ending next, session.goGenerate directory.packageDirectory = (.ok ending, next) →
      ∃ program, session.goProgram? = some program ∧
        next = session.print (program.printed package) := by
  intro place package
  refine ⟨?_, fun hname => ?_, fun ending next hrun => Session.goGenerate_eq_ok hrun⟩
  · cases hname : directory.fileName? with
    | none => simpa using Path.resolve_packageDirectory_eq_iff hname session.tree.working
    | some name =>
      have hplace := Path.resolve_eq_of_fileName? hname session.tree.working
      simp [place, package, hplace]
  · obtain ⟨name, hname⟩ := Option.isSome_iff_exists.1 hname
    have hplace := Path.resolve_eq_of_fileName? hname session.tree.working
    simp [place, package, hplace]

/-- A project in which the step prints where it runs. -/
def steppedSession : Session :=
  .ofTree ((FileTree.ofWorking ["srv", "app"]).plantBelow ⟨"ent/schema"⟩ .directory)
    (some ⟨fun place => "/".intercalate place, .status 0⟩)

/-- Dots and slashes behind and before a name do not matter. -/
theorem steppedSession_runs_above :
    (Path.mk "./ent/../ent//schema/.//").fileName? = some "schema" ∧
    (Path.mk "./ent/../ent//schema/.//").resolve ["srv", "app"] = ["srv", "app", "ent", "schema"] ∧
    steppedSession.goGenerate (Path.mk "./ent/../ent//schema/.//").packageDirectory =
      (.ok (.status 0), steppedSession.print "srv/app/ent") := by
  have hname : (Path.mk "./ent/../ent//schema/.//").fileName? = some "schema" := by decide +kernel
  have hplace : (Path.mk "./ent/../ent//schema/.//").resolve ["srv", "app"] =
      ["srv", "app", "ent", "schema"] := by decide +kernel
  obtain ⟨habove, -, hruns⟩ :=
    packageDirectory_is_above_iff steppedSession ⟨"./ent/../ent//schema/.//"⟩
  have hpackage : (Path.mk "./ent/../ent//schema/.//").packageDirectory.resolve
      steppedSession.tree.working = ["srv", "app", "ent"] := by
    refine (habove.2 (.inl (by rw [hname]; rfl))).trans ?_
    exact congrArg List.dropLast hplace
  have hended : (steppedSession.goGenerate
      (Path.mk "./ent/../ent//schema/.//").packageDirectory).1.toOption = some (.status 0) := by
    decide +kernel
  refine ⟨hname, hplace, ?_⟩
  cases hrun : steppedSession.goGenerate
      (Path.mk "./ent/../ent//schema/.//").packageDirectory with
  | mk outcome next =>
    rw [hrun] at hended
    cases outcome with
    | error fault => cases hended
    | ok ending =>
      obtain rfl : ending = .status 0 := Option.some.inj hended
      obtain ⟨program, hprogram, hnext⟩ := hruns _ _ hrun
      obtain rfl := Option.some.inj hprogram
      rw [hnext, hpackage]
      rfl

/-- Directories that do not end in a name: for none of them the step runs in the directory above,
and for a dot it runs in the directory itself. -/
theorem dotDirectory_is_not_left :
    { Settings.standard with output := ⟨⟨"."⟩, "schema"⟩ }.validate =
      .ok { Settings.standard with output := ⟨⟨"."⟩, "schema"⟩ } ∧
    (Path.mk ".").packageDirectory = ⟨"."⟩ ∧
    ∀ directory ∈ [Path.mk ".", ⟨".."⟩, ⟨"ent/.."⟩, ⟨"/"⟩],
      directory.packageDirectory.resolve ["srv", "app"] ≠
        (directory.resolve ["srv", "app"]).dropLast := by
  refine ⟨rfl, by decide, by decide⟩

end EntSchema

import EntSchema.Proofs.StemCharacters
import EntSchema.Proofs.TreeWalks

/-!
# Where generated files go

The snake case of a name has neither a slash nor a dot, whatever characters the name has, so the
file of an entity has a plain name (`GenerationOptions.isPlainName_fileName`) and stands right below
the output directory: the place where its path leads ends in the name of the file
(`FileTree.LeadsTo.getLast?_join`).  In every tree, therefore, files that go to one place have one
path (`GenerationOptions.pathFor_eq_of_leadsTo`).
-/

namespace EntSchema

/-! ## The place of a file -/

namespace FileTree

/-- Whether a name stands for a place of its own below a directory. -/
structure IsPlainName (name : String) : Prop where
  slash : '/' ∉ name.toList
  nonempty : name ≠ ""
  dot : name ≠ "."
  dots : name ≠ ".."

lemma partsOf_slash (text rest : List Char) :
    partsOf ⟨String.ofList (text ++ '/' :: rest)⟩ =
      partsOf ⟨String.ofList text⟩ ++ partsOf ⟨String.ofList rest⟩ := by
  simp [partsOf, List.splitOn_append_cons_self]

lemma IsPlainName.partsOf_eq {name : String} (h : IsPlainName name) : partsOf ⟨name⟩ = [name] := by
  simp [partsOf, List.splitOn_eq_singleton h.slash, h.nonempty]

/-- A name is the last part of its path in a directory. -/
lemma IsPlainName.partsOf_join {name : String} (h : IsPlainName name) (directory : Path) :
    ∃ above, partsOf (directory.join ⟨name⟩) = above ++ [name] := by
  have hrelative : (Path.mk name).isAbsolute = false := by
    have hhead : name.toList.head? ≠ some '/' := fun hhead => h.slash (List.mem_of_head? hhead)
    simpa [Path.isAbsolute] using hhead
  have hjoin (text : List Char) :
      partsOf ⟨String.ofList (text ++ '/' :: name.toList)⟩ =
        partsOf ⟨String.ofList text⟩ ++ [name] := by
    rw [partsOf_slash, String.ofList_toList, h.partsOf_eq]
  unfold Path.join
  rw [hrelative, if_neg (by simp)]
  by_cases hempty : directory.text = ""
  · refine ⟨[], ?_⟩
    rw [if_pos (by simp [hempty]), hempty, String.empty_append, h.partsOf_eq, List.nil_append]
  by_cases hlast : directory.text.toList.getLast? = some '/'
  · obtain ⟨before, hbefore⟩ := List.getLast?_eq_some_iff.1 hlast
    have htext : directory.text ++ name = String.ofList (before ++ '/' :: name.toList) := by
      rw [← String.toList_inj]
      simp [hbefore]
    rw [if_pos (by simp [hlast]), htext, hjoin]
    exact ⟨_, rfl⟩
  · have htext : directory.text ++ "/" ++ name =
        String.ofList (directory.text.toList ++ '/' :: name.toList) := by
      rw [← String.toList_inj]
      simp
    rw [if_neg (by simp [hempty, hlast]), htext, hjoin]
    exact ⟨_, rfl⟩

lemma IsPlainName.walk_eq_ok {name : String} (h : IsPlainName name) {tree : FileTree}
    {start : Location} {above : List String} {destination : Destination}
    (hwalk : tree.walk start (above ++ [name]) = .ok destination) :
    destination.name? = some name := by
  induction above generalizing start with
  | nil =>
    rw [List.nil_append, walk, if_neg h.dot, if_neg h.dots] at hwalk
    split_ifs at hwalk with _ hlast
    · cases hwalk
      rfl
    · exact absurd rfl hlast
  | cons part rest ih =>
    rw [List.cons_append, walk] at hwalk
    split_ifs at hwalk with hdot hup hlong hlast
    · exact ih hwalk
    · exact ih hwalk
    · simp at hlast
    · cases hnode : tree.node? (start ++ [part]) with
      | none => simp [hnode] at hwalk
      | some node =>
        cases node with
        | file content => simp [hnode] at hwalk
        | directory =>
          rw [hnode] at hwalk
          exact ih hwalk

/-- The path of a name in a directory leads to a place of that name. -/
lemma LeadsTo.getLast?_join {tree : FileTree} {directory : Path} {name : String}
    {location : Location} (hleads : tree.LeadsTo (directory.join ⟨name⟩) location)
    (h : IsPlainName name) : location.getLast? = some name := by
  obtain ⟨destination, hlocate, rfl⟩ := hleads
  obtain ⟨above, hparts⟩ := h.partsOf_join directory
  unfold locate at hlocate
  rw [hparts] at hlocate
  have hname : destination.name? = some name := by
    split_ifs at hlocate <;> exact h.walk_eq_ok hlocate
  simp [Destination.location, hname]

end FileTree

namespace GenerationOptions

/-- Whether a text can stand behind the point of a file name: it is there, does not make two dots of
the point and does not lead into a directory. -/
structure IsFileEnding (ending : String) : Prop where
  slash : '/' ∉ ending.toList
  nonempty : ending ≠ ""
  dot : ending ≠ "."

lemma isFileEnding_go : IsFileEnding "go" := ⟨by decide, by decide, by decide⟩

variable {options : GenerationOptions}

lemma toList_fileName (options : GenerationOptions) (entityName : String) :
    (options.fileName entityName).toList =
      (Text.snakeCase entityName).toList ++ '.' :: options.extension.toList := by
  simp [fileName]

/-- The name of a file is plain, also when nothing is left of the name of its entity. -/
lemma isPlainName_fileName (h : IsFileEnding options.extension) (entityName : String) :
    FileTree.IsPlainName (options.fileName entityName) := by
  have hharmless {c : Char} (hc : c ∈ (Text.snakeCase entityName).toList) : Text.IsHarmless c :=
    Text.isHarmless_of_mem_snakeCase hc
  have hname := toList_fileName options entityName
  have hending : options.extension.toList ≠ [] := by simpa using h.nonempty
  constructor
  case slash =>
    rw [hname]
    intro hmem
    rcases List.mem_append.1 hmem with hstem | hbehind
    · exact (hharmless hstem).slash rfl
    · rcases List.mem_cons.1 hbehind with hpoint | hending
      · exact absurd hpoint (by decide)
      · exact h.slash hending
  case nonempty =>
    intro hempty
    rw [hempty] at hname
    exact absurd hname.symm (by simp)
  case dot =>
    intro hdot
    rw [hdot] at hname
    have hlength := congrArg List.length hname
    have hpositive := List.length_pos_iff.2 hending
    simp at hlength
    omega
  case dots =>
    intro hdots
    rw [hdots] at hname
    cases hstem : (Text.snakeCase entityName).toList with
    | nil =>
      rw [hstem] at hname
      have hdot : options.extension.toList = ['.'] := by simpa using hname.symm
      exact h.dot (String.toList_inj.1 hdot)
    | cons c rest =>
      have htwo : "..".toList = ['.', '.'] := rfl
      rw [hstem, htwo] at hname
      have hc : c = '.' := (List.cons.inj hname).1.symm
      exact (hharmless (by rw [hstem]; exact List.mem_cons_self)).dot hc

/-- Files that go to one place have one path. -/
lemma pathFor_eq_of_leadsTo (h : IsFileEnding options.extension) {tree : FileTree}
    {location : Location} {entityName other : String}
    (hleads : tree.LeadsTo (options.pathFor entityName) location)
    (hother : tree.LeadsTo (options.pathFor other) location) :
    options.pathFor entityName = options.pathFor other := by
  have hlast := hleads.getLast?_join (isPlainName_fileName h entityName)
  have hlast' := hother.getLast?_join (isPlainName_fileName h other)
  have hname : options.fileName entityName = options.fileName other :=
    Option.some.inj (hlast.symm.trans hlast')
  unfold pathFor
  rw [hname]

end GenerationOptions

end EntSchema

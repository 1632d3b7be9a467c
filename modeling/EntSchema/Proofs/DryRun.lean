import EntSchema.Proofs.CommandRuns
import EntSchema.Proofs.FileCollisions
import EntSchema.Proofs.FilePlaces

/-!
# A dry run shows what a run writes

Files with different paths are shown in the order of their paths, one section each, whatever the
order in which they were persisted in memory.  The sections depend on the files alone, and a run
that writes the same files, in any order of its own, leaves each section's source where its path
leads and no other file changed.
-/

namespace EntSchema

/-! ## What is shown -/

/-- The section of a file in the text that a dry run shows. -/
def GeneratedFile.section (file : GeneratedFile) : String :=
  "// ---- " ++ file.path.text ++ " ----\n" ++ file.source ++ "\n"

namespace MemoryStore

/-- The files of a store, in the order of their paths. -/
def sections (store : MemoryStore) : List GeneratedFile :=
  store.files.map fun (path, source) => ⟨path, source⟩

lemma preview_eq (store : MemoryStore) :
    store.preview = String.join (store.sections.map GeneratedFile.section) := by
  unfold preview sections
  rw [List.map_map]
  rfl

lemma InOrder.pairwise_sections {store : MemoryStore} (h : store.InOrder) :
    store.sections.Pairwise fun file next => Path.cmp file.path next.path = .lt :=
  List.pairwise_map.2 h

lemma perm_putFile {store : MemoryStore} {file : GeneratedFile}
    (h : file.path.components ∉ store.places) :
    (store.putFile file.path file.source).sections.Perm (file :: store.sections) := by
  have hnew : ∀ entry ∈ store.files, Path.cmp file.path entry.1 ≠ .eq := by
    intro entry hentry heq
    refine h (List.mem_map.2 ⟨entry, hentry, ?_⟩)
    exact (Path.cmp_eq_iff.1 heq).symm
  exact (Entries.perm_putSorted file.source hnew).map _

/-- Files with different paths are all there, beside those that were there before. -/
lemma perm_putFiles {store : MemoryStore} {files : List GeneratedFile}
    (hdistinct : (files.map (·.path.components)).Nodup)
    (hnew : ∀ file ∈ files, file.path.components ∉ store.places) :
    (store.putFiles files).sections.Perm (files ++ store.sections) := by
  induction files generalizing store with
  | nil => exact .refl _
  | cons file rest ih =>
    obtain ⟨hfile, hrest⟩ := List.nodup_cons.1 hdistinct
    obtain ⟨hfirst, hothers⟩ := List.forall_mem_cons.1 hnew
    have hnext : ∀ other ∈ rest,
        other.path.components ∉ (store.putFile file.path file.source).places := by
      intro other hother hmem
      obtain heq | hold := mem_places_putFile.1 hmem
      · exact hfile (List.mem_map.2 ⟨other, hother, heq⟩)
      · exact hothers other hother hold
    have hlater := ih hrest hnext
    have hput := (perm_putFile hfirst).append_left rest
    exact hlater.trans (hput.trans List.perm_middle)

end MemoryStore

namespace Command

open Model (Document)
open Concurrent (MayPersistInMemory MayPersistOnDisk Stands)

variable {settings : Settings} {document : Document} {files : List GeneratedFile}

/-! ## The order of the sections -/

/-- Files in the order of their paths. -/
def inPathOrder (files : List GeneratedFile) : List GeneratedFile :=
  (MemoryStore.empty.putFiles files).sections

lemma perm_inPathOrder (hdistinct : (files.map (·.path.components)).Nodup) :
    (inPathOrder files).Perm files := by
  have hnew : ∀ file ∈ files, file.path.components ∉ MemoryStore.empty.places :=
    fun file _ => List.not_mem_nil
  have hperm := MemoryStore.perm_putFiles hdistinct hnew
  have hnone : MemoryStore.empty.sections = [] := rfl
  rwa [hnone, List.append_nil] at hperm

lemma pairwise_inPathOrder (files : List GeneratedFile) :
    (inPathOrder files).Pairwise fun file next => Path.cmp file.path next.path = .lt := by
  have hempty : MemoryStore.empty.InOrder := List.Pairwise.nil
  exact (hempty.putFiles files).pairwise_sections

/-- In whatever order files were persisted in memory, their sections are shown in path order. -/
lemma preview_eq_of_mayPersist {directory : Path} {persisted : Persisted} {store : MemoryStore}
    (h : MayPersistInMemory directory files persisted store)
    (hdistinct : (files.map (·.path.components)).Nodup) :
    store.preview = String.join ((inPathOrder files).map GeneratedFile.section) := by
  have hstore := h.store_eq hdistinct
  have hfiles : store.files = (MemoryStore.empty.putFiles files).files := by
    have hmade : (MemoryStore.empty.addDirectory directory).files = MemoryStore.empty.files := rfl
    rw [hstore, MemoryStore.files_putFiles_congr hmade]
  rw [MemoryStore.preview_eq, inPathOrder, MemoryStore.sections, MemoryStore.sections, hfiles]

/-! ## The two runs -/

/-- Whether a dry run prints some sections and does nothing else. -/
structure ShowsSections (way : Persisting (StateM Session)) (settings : Settings)
    (session : Session) (sections : List GeneratedFile) : Prop where
  outcome : (exec (generateBy way settings true) session).1 = .ok ()
  tree : (exec (generateBy way settings true) session).2.tree = session.tree
  output : (exec (generateBy way settings true) session).2.output =
    session.output ++ readingLine settings ++
      String.join (sections.map GeneratedFile.section) ++
      nothingWrittenLine settings.output.directory

/-- Whether a session comes from another one by writing the files of some sections. -/
structure HoldsSections (settings : Settings) (session next : Session)
    (sections : List GeneratedFile) : Prop where
  /-- As many files are reported as there are sections. -/
  output : next.output = session.output ++ readingLine settings ++
    generatedLine sections.length settings.output.directory ++ "\nDone!\n"
  read : ∀ file ∈ sections, next.tree.read file.path = .ok file.source
  others : ∀ location, (∀ file ∈ sections, ¬next.tree.LeadsTo file.path location) →
    ∀ content, next.tree.node? location = some (.file content) ↔
      session.tree.node? location = some (.file content)

variable {way : Persisting (StateM Session)} {session next : Session}

lemma showsSections (hway : way.IsAllowed) (hready : Ready session.tree settings document files)
    (hdistinct : (files.map (·.path.components)).Nodup) :
    ShowsSections way settings session (inPathOrder files) := by
  have hexec := exec_dryRun_of_ready way hready
  have hpersist := hway.inMemory settings.output.directory files
  have hpreview := preview_eq_of_mayPersist hpersist hdistinct
  constructor
  case outcome => rw [hexec]
  case tree => exact LeavesFiles.dryRun way settings session
  case output =>
    have houtput := congrArg (·.2.output) hexec
    simp only [Session.output_print, Session.output_logAll, output_generatedSession,
      hpreview] at houtput
    exact houtput

/-- In every tree the files of a document go to different places. -/
lemma eq_of_leadsTo (generated : settings.generationOptions.generate document = .ok files)
    (hdistinct : (files.map (·.path.components)).Nodup) {tree : FileTree} {location : Location}
    {file other : GeneratedFile} (hfile : file ∈ files) (hother : other ∈ files)
    (hleads : tree.LeadsTo file.path location) (hleads' : tree.LeadsTo other.path location) :
    file = other := by
  have hpaths := GenerationOptions.map_path_of_generate generated
  have hnamed : ∀ file ∈ files, ∃ entity ∈ document.entities,
      settings.generationOptions.pathFor entity.name = file.path := by
    intro file hfile
    have hmem := List.mem_map_of_mem (f := GeneratedFile.path) hfile
    rw [hpaths] at hmem
    exact List.mem_map.1 hmem
  obtain ⟨entity, -, hpath⟩ := hnamed file hfile
  obtain ⟨entity', -, hpath'⟩ := hnamed other hother
  rw [← hpath] at hleads
  rw [← hpath'] at hleads'
  have hsame : file.path = other.path := by
    rw [← hpath, ← hpath']
    have hending : GenerationOptions.IsFileEnding settings.generationOptions.extension :=
      GenerationOptions.isFileEnding_go
    exact GenerationOptions.pathFor_eq_of_leadsTo hending hleads hleads'
  exact List.inj_on_of_nodup_map hdistinct hfile hother (congrArg Path.components hsame)

lemma holdsSections (hway : way.IsAllowed) (hready : Ready session.tree settings document files)
    (hdistinct : (files.map (·.path.components)).Nodup) (hgo : settings.goGenerate = false)
    (hrun : exec (generateBy way settings false) session = (.ok (), next)) :
    HoldsSections settings session next (inPathOrder files) := by
  have hperm := perm_inPathOrder hdistinct
  obtain ⟨persisted, reached, hpersist, hcases⟩ := exec_generateBy_allowed hway hready hgo
  obtain ⟨count, hresult, hexec, houtput⟩ | ⟨fault, -, hexec⟩ := hcases
  swap
  · rw [hrun] at hexec
    simp at hexec
  rw [hrun] at hexec
  obtain rfl : next = reached := congrArg Prod.snd hexec
  obtain ⟨rfl, hstands⟩ := hpersist.of_ok hresult
  constructor
  case output => rw [houtput, hperm.length_eq]
  case read =>
    intro file hfile
    have hfile := hperm.mem_iff.1 hfile
    obtain ⟨hslash, location, hleads, last, hlast, hleads', hnode⟩ := hstands file hfile
    rw [← eq_of_leadsTo hready.generated hdistinct hfile hlast hleads hleads'] at hnode
    exact FileTree.read_eq_ok_iff.2 ⟨hslash, location, hleads, hnode⟩
  case others =>
    intro location hother content
    cases hpersist.changesOnly.places location with
    | same hsame => rw [hsame]
    | made hbefore hafter => simp [hbefore, hafter]
    | written _ hfile hleads => exact absurd hleads (hother _ (hperm.mem_iff.2 hfile))

/-- **A dry run shows exactly what a run writes.**  For all allowed orders of the writes, in memory
and on the disk, the sections are the same: the files in the order of their paths. -/
theorem dry_run_shows_what_is_written (hready : Ready session.tree settings document files)
    (hdistinct : (files.map (·.path.components)).Nodup) (hgo : settings.goGenerate = false) :
    (inPathOrder files).Perm files ∧
    (inPathOrder files).Pairwise (fun file next => Path.cmp file.path next.path = .lt) ∧
    (∀ way : Persisting (StateM Session), way.IsAllowed →
      ShowsSections way settings session (inPathOrder files)) ∧
    ∀ way : Persisting (StateM Session), way.IsAllowed → ∀ next,
      exec (generateBy way settings false) session = (.ok (), next) →
        HoldsSections settings session next (inPathOrder files) :=
  ⟨perm_inPathOrder hdistinct, pairwise_inPathOrder files,
    fun _ hway => showsSections hway hready hdistinct,
    fun _ hway _ hrun => holdsSections hway hready hdistinct hgo hrun⟩

/-- A document whose entities are not in the order of their files. -/
def tagsDocument : Document :=
  ⟨[], [⟨"Tag", []⟩, ⟨"Post", []⟩]⟩

def tagsText : String :=
  r#"{"models":[{"name":"Tag","fields":[]},{"name":"Post","fields":[]}]}"#

/-- A session in a project with that document. -/
def tagsSession : Session :=
  let project := FileTree.ofWorking ["project"]
  .ofTree (project.plantBelow Settings.standard.schema (.file (.text tagsText))) none

/-- Beside the two files that are shown, a run in that project makes only their directories. -/
theorem tagsSession_holds_what_it_shows :
    ∃ files next, Ready tagsSession.tree .standard tagsDocument files ∧
      (files.map (·.path.components)).Nodup ∧ Settings.standard.goGenerate = false ∧
      (inPathOrder files).map GeneratedFile.path =
        [⟨"ent/schema/post.go"⟩, ⟨"ent/schema/tag.go"⟩] ∧
      exec (generate .standard false) tagsSession = (.ok (), next) ∧
      ShowsSections .inTurn .standard tagsSession (inPathOrder files) ∧
      HoldsSections .standard tagsSession next (inPathOrder files) ∧
      ((next.tree.changesSince tagsSession.tree).map Prod.fst).Perm
        ("ent/" :: "ent/schema/" :: (inPathOrder files).map (·.path.text)) := by
  obtain ⟨tag, post, hfiles⟩ : ∃ tag post,
      Settings.standard.generationOptions.generate tagsDocument =
        .ok [⟨⟨"ent/schema/tag.go"⟩, tag⟩, ⟨⟨"ent/schema/post.go"⟩, post⟩] := ⟨_, _, rfl⟩
  have hready : Ready tagsSession.tree .standard tagsDocument _ := ⟨⟨tagsText, rfl, rfl⟩, hfiles⟩
  have hdistinct : ([⟨⟨"ent/schema/tag.go"⟩, tag⟩, ⟨⟨"ent/schema/post.go"⟩, post⟩].map
      fun file : GeneratedFile => file.path.components).Nodup := by
    show [Path.components ⟨"ent/schema/tag.go"⟩, Path.components ⟨"ent/schema/post.go"⟩].Nodup
    decide
  obtain ⟨next, hrun⟩ : ∃ next, exec (generate .standard false) tagsSession = (.ok (), next) := by
    have hok : (exec (generate .standard false) tagsSession).1.toOption = some () := by
      decide +kernel
    exact exists_exec_eq hok
  obtain ⟨-, -, hshows, hholds⟩ := dry_run_shows_what_is_written hready hdistinct rfl
  have hpaths : (inPathOrder [⟨⟨"ent/schema/tag.go"⟩, tag⟩, ⟨⟨"ent/schema/post.go"⟩, post⟩]).map
      GeneratedFile.path = [⟨"ent/schema/post.go"⟩, ⟨"ent/schema/tag.go"⟩] := by
    have hcmp : Path.cmp ⟨"ent/schema/post.go"⟩ ⟨"ent/schema/tag.go"⟩ = .lt := by decide +kernel
    simp [inPathOrder, MemoryStore.putFiles, MemoryStore.putFile, MemoryStore.sections,
      MemoryStore.empty, Entries.putSorted, hcmp]
  refine ⟨_, next, hready, hdistinct, rfl, hpaths, hrun, hshows _ Persisting.isAllowed_inTurn,
    hholds _ Persisting.isAllowed_inTurn next hrun, ?_⟩
  have hchanges : (((exec (generate .standard false) tagsSession).2.tree.changesSince
      tagsSession.tree).map Prod.fst).Perm
        ["ent/", "ent/schema/", "ent/schema/post.go", "ent/schema/tag.go"] := by
    refine ((List.mergeSort_perm _ _).map Prod.fst).trans ?_
    decide +kernel
  have htexts := congrArg (List.map Path.text) hpaths
  rw [List.map_map] at htexts
  rw [hrun] at hchanges
  exact htexts ▸ hchanges

end Command

end EntSchema

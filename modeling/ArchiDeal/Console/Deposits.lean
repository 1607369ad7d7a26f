import ArchiDeal.Console.Zenodo
import ArchiDeal.Lib.Passes

/-!
# The files of a deposit

What an export to Zenodo leaves in the bucket of the deposition, which keeps the bytes of the last
upload to each name.

* `uploads_deposit`: the uploads of an export that returns, in order;
* `every_file_reaches_iff`: every file has its object exactly if the names of the uploads are
  distinct. A staged file is uploaded under its last path component.
-/

namespace ArchiDeal.Console.Zenodo

open Calls

variable {lib : Libraries} {env : Env} {fs : FileSystem} {catalogue : Catalogue} {payload : Payload}
  {prepared : Prepared}

/-! ### Uploads -/

/-- The object that the bucket has under a URL: the bytes of the last upload. -/
def State.object (s : State) (url : String) : Option (List UInt8) := Passes.last url s.uploads

/-- From some uploads the script leads to others, if it returns. -/
structure Uploads {α : Type} (before : List (String × List UInt8)) (script : Script α)
    (after : α → List (String × List UInt8) → Prop) : Prop where
  triple : Prog.Triple zenodo (fun _ => True) (fun s => s.uploads = before) script
    (fun a s => after a s.uploads) (fun _ _ => True) fun _ => True

section Rules

variable {α β : Type} {before middle : List (String × List UInt8)}
  {after : β → List (String × List UInt8) → Prop}

theorem Uploads.returned {script : Script β} {s : State} {ws : List (Weather Response)} {b : β}
    (h : Uploads before script after) (hs : s.uploads = before)
    (hreturned : (script.run zenodo ws s).1 = .returned b) :
    after b (script.run zenodo ws s).2.uploads := by
  have hends := h.triple.run hs fun w (_ : w ∈ ws) _ _ => trivial
  rwa [hreturned] at hends

theorem uploads_pure {b : β} (h : after b before) : Uploads before (Prog.pure b) after :=
  ⟨Prog.triple_pure fun _ hs => hs ▸ h⟩

/-- **Computations without requests.** -/
theorem uploads_bind_lift {x : Except Raised α} {f : α → Script β}
    (h : ∀ a, x = .ok a → Uploads before (f a) after) :
    Uploads before ((Prog.lift x : Script α) >>= f) after := by
  cases x with
  | ok a => exact h a rfl
  | error e => exact ⟨fun _ _ => trivial⟩

/-- **Sequences**, where the first part determines the uploads. -/
theorem uploads_bind {p : Script α} {f : α → Script β}
    (hp : Uploads before p fun _ uploads => uploads = middle)
    (hf : ∀ a, Uploads middle (f a) after) : Uploads before (p >>= f) after :=
  ⟨Prog.Triple.bind hp.triple fun a => (hf a).triple⟩

end Rules

/-- **Requests**: `stored` are the uploads after a good answer. -/
theorem uploads_send {url : Json} {call : String → Call}
    {before stored : List (String × List UInt8)}
    (hcall : ∀ target v s, url = .str target → s.next = .json v → s.uploads = before →
      (zenodo.effect (call target) s).uploads = stored) :
    Uploads before (send lib url call) fun _ uploads => uploads = stored := by
  rw [send]
  refine uploads_bind_lift fun target htarget => ⟨?_⟩
  obtain ⟨htarget, -⟩ := validateHttpsUrl_eq_ok.1 htarget
  refine Prog.Triple.bind (R := fun response s => ∀ v, response = .json v → s.uploads = stored)
    (Prog.triple_invoke (fun _ _ _ h => h) fun s hs => ⟨trivial, trivial, fun v hv => ?_⟩)
    fun response => Prog.triple_lift (fun v s hv hs => ?_) fun _ _ _ _ => trivial
  · exact hcall target v s htarget hv hs
  · cases response with
    | json w => exact hs w rfl
    | _ => cases hv

/-- **Uploads** are stored if they return. -/
theorem uploads_upload {bucket filename : String} {content : List UInt8}
    {before : List (String × List UInt8)} :
    Uploads before (uploadFileToBucket lib bucket filename content) fun _ uploads =>
      uploads = before ++ [(targetUrl bucket filename, content)] := by
  rw [uploadFileToBucket]
  refine uploads_send fun target v s htarget hnext hs => ?_
  rw [← Json.str.inj htarget, ← hs]
  simp only [zenodo, hnext]

/-- The upload of a staged file. -/
def uploadOf (fs : FileSystem) (bucket : String) (file : Path) : String × List UInt8 :=
  (targetUrl bucket (Path.name file), (fs.read file).getD [])

theorem uploads_uploadStagedFiles {bucket : String} {files : List Path}
    {before : List (String × List UInt8)} :
    Uploads before (uploadStagedFiles lib fs bucket files) fun _ uploads =>
      (∀ file ∈ files, (fs.read file).isSome = true) ∧
        uploads = before ++ files.map (uploadOf fs bucket) := by
  induction files generalizing before with
  | nil => exact uploads_pure ⟨List.forall_mem_nil _, (List.append_nil _).symm⟩
  | cons file files ih =>
    rw [uploadStagedFiles]
    refine uploads_bind_lift fun content hcontent => uploads_bind uploads_upload fun uploaded => ?_
    have hread : fs.read file = some content := readBytes_eq_ok.1 hcontent
    refine ⟨Prog.Triple.bind ih.triple fun others => Prog.triple_pure fun s hs => ⟨?_, ?_⟩⟩
    · exact List.forall_mem_cons.2 ⟨by rw [hread]; rfl, hs.1⟩
    · rw [hs.2, List.map_cons, uploadOf, hread]
      simp

theorem uploads_finish {links : List (String × Json)} {depositionId selfUrl updated : Json}
    {uploadedFiles : List Json} {before : List (String × List UInt8)} :
    Uploads before
      (finish lib payload prepared links depositionId selfUrl updated uploadedFiles)
      fun _ uploads => uploads = before := by
  rw [finish]
  refine uploads_bind ?_ fun published => uploads_bind_lift fun latest _ => uploads_pure rfl
  split_ifs
  · exact uploads_send fun _ _ _ _ _ hs => hs
  · exact uploads_pure rfl

/-- **The uploads of an export that returns**, in order. -/
theorem uploads_deposit :
    Uploads [] (deposit lib env fs payload prepared) fun _ uploads => ∃ bucket,
      (∀ file ∈ prepared.stagedFiles, (fs.read file).isSome = true) ∧
        uploads = (targetUrl bucket (manifestFilename prepared.datasetId),
          manifestBytes lib env prepared) :: prepared.stagedFiles.map (uploadOf fs bucket) := by
  rw [deposit]
  refine uploads_bind (uploads_send fun _ _ _ _ _ hs => hs) fun created => ?_
  refine uploads_bind_lift fun deposition _ => uploads_bind_lift fun bucketUrl _ => ?_
  refine uploads_bind (uploads_send fun _ _ _ _ _ hs => hs) fun updated => ?_
  refine uploads_bind_lift fun bucket _ => uploads_bind uploads_upload fun manifest => ?_
  refine ⟨Prog.Triple.bind uploads_uploadStagedFiles.triple fun staged s hs => ?_⟩
  refine Prog.wp_mono (uploads_finish.triple s rfl) fun outcome t ht => ?_
  cases outcome with
  | returned a => exact ⟨bucket, hs.1, ht.trans hs.2⟩
  | _ => trivial

/-! ### Names -/

def uploadNames (prepared : Prepared) : List String :=
  manifestFilename prepared.datasetId :: prepared.stagedFiles.map Path.name

theorem targetUrl_injective (bucket : String) : Function.Injective (targetUrl bucket) := by
  intro a b h
  simp only [targetUrl, String.append_right_inj] at h
  exact Urls.quote_injective (by decide) h

/-- Every file has reached the bucket, and no upload has replaced another. -/
structure Reached (lib : Libraries) (env : Env) (fs : FileSystem) (prepared : Prepared)
    (s : State) : Prop where
  manifest : ∃ url, s.object url = some (manifestBytes lib env prepared)
  staged : ∀ file ∈ prepared.stagedFiles, ∃ url content, fs.read file = some content ∧
    s.object url = some content
  distinct : (s.uploads.map Prod.fst).Nodup

theorem nodup_uploads_iff {bucket : String} {uploads : List (String × List UInt8)}
    (h : uploads = (targetUrl bucket (manifestFilename prepared.datasetId),
      manifestBytes lib env prepared) :: prepared.stagedFiles.map (uploadOf fs bucket)) :
    (uploads.map Prod.fst).Nodup ↔ (uploadNames prepared).Nodup := by
  have hmap : uploads.map Prod.fst = (uploadNames prepared).map (targetUrl bucket) := by
    simp [h, uploadNames, uploadOf, Function.comp_def]
  rw [hmap, List.nodup_map_iff (targetUrl_injective bucket)]

/-- **When every file reaches the deposit.** In an export that returns, the bucket has the manifest
and every staged file, and no upload replaces another, exactly if the names of the uploads are
distinct. -/
theorem every_file_reaches_iff (lib : Libraries) (env : Env) (fs : FileSystem)
    (catalogue : Catalogue) (payload : Payload) (prepared : Prepared) (s : State)
    (ws : List (Weather Response)) (result : Json)
    (hprepared : prepare lib env fs catalogue payload = .ok prepared) (hs : s.uploads = [])
    (hreturned : ((exportDatasetToZenodo lib env fs catalogue payload).run zenodo ws s).1 =
      .returned result) :
    Reached lib env fs prepared
        ((exportDatasetToZenodo lib env fs catalogue payload).run zenodo ws s).2 ↔
      (uploadNames prepared).Nodup := by
  have hexport : exportDatasetToZenodo lib env fs catalogue payload =
      deposit lib env fs payload prepared := by
    rw [exportDatasetToZenodo, hprepared]
    rfl
  rw [hexport] at hreturned ⊢
  obtain ⟨bucket, hread, huploads⟩ := uploads_deposit.returned hs hreturned
  -- distinct targets are not overwritten, and the targets are distinct if the names are
  refine ⟨fun h => ?_, fun h => ?_⟩
  · exact (nodup_uploads_iff huploads).1 h.distinct
  · have hdistinct := (nodup_uploads_iff huploads).2 h
    have hobject {url : String} {content : List UInt8} (h : (url, content) ∈ _) :=
      Passes.last_of_mem hdistinct h
    refine ⟨⟨_, hobject (by rw [huploads]; exact List.mem_cons_self)⟩, fun file hfile => ?_,
      hdistinct⟩
    obtain ⟨content, hcontent⟩ := Option.isSome_iff_exists.1 (hread file hfile)
    refine ⟨targetUrl bucket (Path.name file), content, hcontent, hobject ?_⟩
    rw [huploads]
    refine List.mem_cons_of_mem _ (List.mem_map.2 ⟨file, hfile, ?_⟩)
    rw [uploadOf, hcontent]
    rfl

/-- What is known before the first request of an export of the sample. -/
def samplePrepared (files : List String) (staged : List Path) : Prepared where
  datasetId := "dataset.sample"
  dataset := ⟨"dataset.sample", "Sample", "derived", "mixed", "mediated", none, []⟩
  dmp := none
  metadata := .obj [("metadata", .obj (metadataFields sampleEnv
    ⟨"dataset.sample", "Sample", "derived", "mixed", "mediated", none, []⟩ none
    (samplePayload files) "restricted"))]
  stagedFiles := staged
  baseUrl := "https://sandbox.zenodo.org/api"

/-- An export of two files with different names. -/
theorem every_file_reaches_sample :
    ∃ s, Reached sampleLibraries sampleEnv sampleFiles
      (samplePrepared ["a/x.csv", "b/y.csv"] [["staging", "a", "x.csv"], ["staging", "b", "y.csv"]])
      s := by
  have hprepared : prepare sampleLibraries sampleEnv sampleFiles (sampleCatalogue "mixed")
      (samplePayload ["a/x.csv", "b/y.csv"]) = .ok (samplePrepared ["a/x.csv", "b/y.csv"]
        [["staging", "a", "x.csv"], ["staging", "b", "y.csv"]]) := by rfl
  exact ⟨_, (every_file_reaches_iff _ _ _ _ _ _ sampleState [] _ hprepared rfl rfl).2 (by decide)⟩

/-- Two staged files have one name: the second upload replaces the first. -/
theorem same_name_replaced :
    let payload := samplePayload ["a/x.csv", "b/x.csv"]
    let files : List Path := [["staging", "a", "x.csv"], ["staging", "b", "x.csv"]]
    let run := (exportDatasetToZenodo sampleLibraries sampleEnv sampleFiles
      (sampleCatalogue "mixed") payload).run zenodo [] sampleState
    stagedFilesFromPayload sampleEnv sampleFiles payload = .ok files ∧
      (∃ result, run.1 = .returned result) ∧ sampleFiles.read ["staging", "a", "x.csv"] = some [1] ∧
      run.2.uploads.map Prod.snd = [[0], [1], [2]] ∧
      run.2.object "https://zenodo.org/bucket/x.csv" = some [2] ∧
      ¬ (run.2.uploads.map Prod.fst).Nodup := by
  refine ⟨rfl, ⟨_, rfl⟩, rfl, rfl, rfl, ?_⟩
  decide +kernel

end ArchiDeal.Console.Zenodo

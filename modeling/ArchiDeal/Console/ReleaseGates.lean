import ArchiDeal.Console.Zenodo

/-!
# The gates of a release

What an export to Zenodo may request, for every reply of Zenodo.

* `prepare_eq_ok`, `only_of_prepare`: nothing is requested before all checks have passed;
* `only_deposit`, `requests_of_deposit`: what a deposit may request, and what it does request for
  some replies;
* `gates_hold_iff`: when the gates of a release hold. The gate for open access is a list of
  classifications that are refused, and an approval is any value that is true for Python.
-/

namespace ArchiDeal.Console.Zenodo

open Calls

variable {lib : Libraries} {env : Env} {fs : FileSystem} {catalogue : Catalogue} {payload : Payload}
  {prepared : Prepared}

/-! ### The gates of a release -/

def sentAccessRight (metadata : Json) : Option Json :=
  (metadata.get? "metadata").bind (·.get? "access_right")

/-- The real path of a file lies in the staging directory. -/
def InStaging (env : Env) (fs : FileSystem) (file : Path) : Prop :=
  ∃ stagingDir baseDir real, env.stagingDir = some stagingDir ∧
    fs.resolve (joinPath fs.cwd stagingDir) = some baseDir ∧ fs.resolve file = some real ∧
    baseDir <+: real

/-- The requests that the gates allow for a dataset. -/
def Permitted (lib : Libraries) (env : Env) (fs : FileSystem) (catalogue : Catalogue)
    (dataset : Dataset) (payload : Payload) : Call → Prop
  | .create _ => True
  | .update _ metadata => sentAccessRight metadata = some (.str "open") →
      dataset.classification = "public"
  | .upload url content =>
      content = lib.dumps (buildZenodoManifest env dataset (linkedDmp catalogue dataset)) ∨
        ∃ files, stagedFilesFromPayload env fs payload = .ok files ∧ ∃ file ∈ files, ∃ bucket,
          url = targetUrl bucket file.name ∧ fs.read file = some content ∧ InStaging env fs file
  | .publish _ => payload.lookup "legal_review_approved" = some (.bool true)

/-- The dataset that a payload names. -/
def Chosen (catalogue : Catalogue) (payload : Payload) (dataset : Dataset) : Prop :=
  ∃ datasetId, datasetIdOf payload = .ok datasetId ∧ findDataset catalogue datasetId = .ok dataset

/-- A gate refuses the payload: the release of the dataset, or a staged file. -/
def Refused (env : Env) (fs : FileSystem) (dataset : Dataset) (payload : Payload) : Prop :=
  (∃ e, validateReleaseGate dataset payload (accessRightForDataset dataset payload) = .error e) ∨
    ∃ e, stagedFilesFromPayload env fs payload = .error e

/-- The gates hold, whatever Zenodo replies. -/
structure GatesHold (lib : Libraries) (env : Env) (fs : FileSystem) (catalogue : Catalogue)
    (payload : Payload) : Prop where
  permitted : (exportDatasetToZenodo lib env fs catalogue payload).Only fun c =>
    ∃ dataset, Chosen catalogue payload dataset ∧
      Permitted lib env fs catalogue dataset payload c
  refused : ∀ dataset, Chosen catalogue payload dataset → Refused env fs dataset payload →
    (exportDatasetToZenodo lib env fs catalogue payload).Only fun _ => False

theorem prepare_eq_ok :
    prepare lib env fs catalogue payload = .ok prepared ↔
      datasetIdOf payload = .ok prepared.datasetId ∧ env.accessToken.any (· != "") = true ∧
      findDataset catalogue prepared.datasetId = .ok prepared.dataset ∧
      prepared.dmp = linkedDmp catalogue prepared.dataset ∧
      buildZenodoMetadata env prepared.dataset prepared.dmp payload = .ok prepared.metadata ∧
      stagedFilesFromPayload env fs payload = .ok prepared.stagedFiles ∧
      checkBaseUrl lib env = .ok prepared.baseUrl := by
  constructor
  · intro h
    obtain ⟨datasetId, hid, h⟩ := bind_eq_ok.1 h
    obtain ⟨_, htoken, h⟩ := bind_eq_ok.1 h
    obtain ⟨dataset, hdataset, h⟩ := bind_eq_ok.1 h
    obtain ⟨metadata, hmetadata, h⟩ := bind_eq_ok.1 h
    obtain ⟨files, hfiles, h⟩ := bind_eq_ok.1 h
    obtain ⟨baseUrl, hbase, h⟩ := bind_eq_ok.1 h
    obtain rfl := Except.ok.inj h
    exact ⟨hid, ensure_eq_ok.1 htoken, hdataset, rfl, hmetadata, hfiles, hbase⟩
  · rintro ⟨hid, htoken, hdataset, hdmp, hmetadata, hfiles, hbase⟩
    rw [hdmp] at hmetadata
    rw [prepare]
    refine bind_eq_ok.2 ⟨_, hid, bind_eq_ok.2 ⟨(), ensure_eq_ok.2 htoken, bind_eq_ok.2 ⟨_, hdataset,
      bind_eq_ok.2 ⟨_, hmetadata, bind_eq_ok.2 ⟨_, hfiles, bind_eq_ok.2 ⟨_, hbase, ?_⟩⟩⟩⟩⟩⟩
    rw [← hdmp]
    rfl

theorem Chosen.unique {dataset dataset' : Dataset} (h : Chosen catalogue payload dataset)
    (h' : Chosen catalogue payload dataset') : dataset = dataset' := by
  obtain ⟨datasetId, hid, hdataset⟩ := h
  obtain ⟨datasetId', hid', hdataset'⟩ := h'
  cases hid.symm.trans hid'
  exact Except.ok.inj (hdataset.symm.trans hdataset')

theorem chosen_of_prepare (h : prepare lib env fs catalogue payload = .ok prepared) :
    Chosen catalogue payload prepared.dataset :=
  ⟨_, (prepare_eq_ok.1 h).1, (prepare_eq_ok.1 h).2.2.1⟩

/-- **Nothing is sent before the gates.** -/
theorem only_of_prepare {C : Call → Prop}
    (h : ∀ prepared, prepare lib env fs catalogue payload = .ok prepared →
      (deposit lib env fs payload prepared).Only C) :
    (exportDatasetToZenodo lib env fs catalogue payload).Only C := by
  rw [exportDatasetToZenodo]
  cases hprepare : prepare lib env fs catalogue payload with
  | ok prepared => exact h prepared hprepare
  | error e => trivial

/-- The metadata carry the access right, and the gate of a release has passed. -/
theorem buildZenodoMetadata_eq_ok {dataset : Dataset} {dmp : Option Dmp} {metadata : Json}
    (h : buildZenodoMetadata env dataset dmp payload = .ok metadata) :
    sentAccessRight metadata = some (.str (accessRightForDataset dataset payload)) ∧
      validateReleaseGate dataset payload (accessRightForDataset dataset payload) = .ok () := by
  obtain ⟨⟨⟩, hgate, h⟩ := bind_eq_ok.1 h
  obtain rfl := Except.ok.inj h
  exact ⟨rfl, hgate⟩

/-- The access right is `open` only on request or for public datasets. -/
theorem accessRight_open {dataset : Dataset} (h : accessRightForDataset dataset payload = "open") :
    payload.lookup "access_right" = some (.str "open") ∨ dataset.classification = "public" := by
  have hmode (h : (if dataset.accessMode = "open" ∧ dataset.classification = "public" then "open"
      else if dataset.accessMode = "embargoed" then "embargoed" else "restricted") = "open") :
      dataset.classification = "public" := by
    split_ifs at h with hopen
    · exact hopen.2
    · exact absurd h (by decide)
    · exact absurd h (by decide)
  unfold accessRightForDataset at h
  simp only at h
  split at h
  · rename_i requested hrequested
    split_ifs at h
    all_goals first
      | exact .inl (h ▸ hrequested)
      | exact .inr (by tauto)
  · exact .inr (hmode h)

theorem accessRight_of_request {dataset : Dataset}
    (h : payload.lookup "access_right" = some (.str "open")) :
    accessRightForDataset dataset payload = "open" := by
  simp [accessRightForDataset, h]

theorem stagedFile_eq_ok {baseDir file : Path} {name : Json}
    (h : stagedFile fs baseDir name = .ok file) : baseDir <+: file ∧ fs.resolve file =
      some file := by
  unfold stagedFile at h
  split at h
  · split_ifs at h
    split at h
    · cases h
    · rename_i candidate hcandidate
      split_ifs at h with hfile
      obtain rfl := Except.ok.inj h
      exact ⟨List.isPrefixOf_iff_prefix.1 (Bool.and_eq_true_iff.1 hfile).1,
        fs.resolve_resolved hcandidate⟩
  · cases h

/-- **Staged files lie in the staging directory.** -/
theorem inStaging_of_staged {files : List Path}
    (h : stagedFilesFromPayload env fs payload = .ok files) :
    ∀ file ∈ files, InStaging env fs file := by
  unfold stagedFilesFromPayload at h
  split at h
  · obtain rfl := Except.ok.inj h
    exact List.forall_mem_nil _
  · obtain rfl := Except.ok.inj h
    exact List.forall_mem_nil _
  · obtain rfl := Except.ok.inj h
    exact List.forall_mem_nil _
  · obtain rfl := Except.ok.inj h
    exact List.forall_mem_nil _
  · -- only a list of names is looked up in the staging directory
    split at h
    · cases h
    · rename_i stagingDir hdir
      obtain ⟨baseDir, hbase, h⟩ := bind_eq_ok.1 h
      intro file hfile
      obtain ⟨name, -, hname⟩ := exists_item_of_mapM h hfile
      obtain ⟨hinside, hreal⟩ := stagedFile_eq_ok hname
      refine ⟨stagingDir, baseDir, file, (Option.filter_eq_some_iff.1 hdir).1, ?_, hreal, hinside⟩
      unfold baseDirectory at hbase
      split at hbase
      · obtain rfl := Except.ok.inj hbase
        assumption
      · cases hbase
  · cases h

/-! ### The requests of a deposit -/

-- The rules below match scripts by their shape; unfolding must not parse the URLs of requests.
seal validateHttpsUrl

section Requests

variable {C : Call → Prop}

theorem only_send {url : Json} {call : String → Call}
    (h : ∀ target, url = .str target → C (call target)) : (send lib url call).Only C := by
  have hurl : (Prog.lift (validateHttpsUrl lib url) : Script String).Returning fun target =>
      url = .str target :=
    Prog.returning_lift fun target htarget => (validateHttpsUrl_eq_ok.1 htarget).1
  refine (Prog.only_lift _).bind_returning hurl fun target htarget => ?_
  exact (Prog.only_invoke (h target htarget)).bind fun _ => Prog.only_lift _

theorem only_upload {bucket filename : String} {content : List UInt8}
    (h : C (.upload (targetUrl bucket filename) content)) :
    (uploadFileToBucket lib bucket filename content).Only C :=
  only_send fun _ htarget => Json.str.inj htarget ▸ h

/-- The uploads of the staged files return only if all can be read. -/
theorem only_uploadStagedFiles {bucket : String} {files : List Path}
    (h : ∀ file ∈ files, ∀ content, fs.read file = some content →
      C (.upload (targetUrl bucket file.name) content)) :
    (uploadStagedFiles lib fs bucket files).Only C ∧
      (uploadStagedFiles lib fs bucket files).Returning fun _ =>
        ∀ file ∈ files, (fs.read file).isSome = true := by
  induction files with
  | nil => exact ⟨trivial, List.forall_mem_nil _⟩
  | cons file files ih =>
    rw [List.forall_mem_cons] at h
    obtain ⟨honly, hreturning⟩ := ih h.2
    have hread : (Prog.lift (readBytes fs file) : Script (List UInt8)).Returning fun content =>
        fs.read file = some content :=
      Prog.returning_lift fun content hcontent => readBytes_eq_ok.1 hcontent
    rw [uploadStagedFiles]
    constructor
    · refine (Prog.only_lift _).bind_returning hread fun content hcontent => ?_
      exact (only_upload (h.1 content hcontent)).bind fun _ => honly.bind fun _ => trivial
    · refine hread.bind fun content hcontent => (Prog.returning_true _).bind fun _ _ =>
        hreturning.bind fun _ hfiles => ?_
      exact List.forall_mem_cons.2 ⟨by rw [hcontent]; rfl, hfiles⟩

/-- **What a deposit may request.** -/
theorem only_deposit (hcreate : ∀ url, C (.create url))
    (hupdate : ∀ url, C (.update url prepared.metadata))
    (hmanifest : ∀ url, C (.upload url (manifestBytes lib env prepared)))
    (hstaged : ∀ file ∈ prepared.stagedFiles, ∀ content, fs.read file = some content →
      ∀ bucket, C (.upload (targetUrl bucket file.name) content))
    (hpublish : payload.truthy "publish" = true →
      (∀ file ∈ prepared.stagedFiles, (fs.read file).isSome = true) → ∀ url, C (.publish url)) :
    (deposit lib env fs payload prepared).Only C := by
  refine (only_send fun url _ => hcreate url).bind fun created => ?_
  refine (Prog.only_lift _).bind fun deposition => (Prog.only_lift _).bind fun bucketUrl => ?_
  refine (only_send fun url _ => hupdate url).bind fun updated => ?_
  refine (Prog.only_lift _).bind fun bucket => (only_upload (hmanifest _)).bind fun manifest => ?_
  obtain ⟨honly, hreturning⟩ := @only_uploadStagedFiles lib fs C bucket _
    fun file hfile content hcontent => hstaged file hfile content hcontent bucket
  refine honly.bind_returning hreturning fun staged hread => ?_
  refine Prog.Only.bind ?_ fun published => (Prog.only_lift _).bind fun _ => trivial
  split_ifs with h
  · exact only_send fun url _ => hpublish h hread url
  · trivial

end Requests

/-- The URL of the first request. -/
def depositionsUrl (baseUrl : String) : String := baseUrl ++ "/deposit/depositions"

theorem canReturn_lift {α : Type} {x : Except Raised α} {a : α} (h : x = .ok a) :
    (Prog.lift x : Script α).CanReturn a := by
  subst h
  exact rfl

/-- A request to a good URL is sent, and any value may be its answer. -/
theorem canReturn_send {url : String} (call : String → Call) (v : Json)
    (h : Urls.isHttps lib.refused url.toList = some true) :
    (send lib (.str url) call).CanReturn v :=
  (canReturn_lift (validateHttpsUrl_eq_ok.2 ⟨rfl, h⟩)).bind
    (show ((Prog.invoke (call url) : Script Response) >>= _).CanReturn v from ⟨.json v, rfl⟩)

theorem sent_of_only {C : Call → Prop} {url : String} {call : String → Call}
    (h : (send lib (.str url) call).Only C)
    (hurl : Urls.isHttps lib.refused url.toList = some true) : C (call url) :=
  (Prog.Only.right h (canReturn_lift (validateHttpsUrl_eq_ok.2 ⟨rfl, hurl⟩))).1

theorem stripSlashes_depositionsUrl (baseUrl : String) :
    stripSlashes (depositionsUrl baseUrl) = depositionsUrl baseUrl := by
  rw [stripSlashes, ← String.toList_inj, depositionsUrl, String.toList_append,
    List.reverse_append]
  simp

theorem isHttps_path {url : String} (h : Urls.isHttps lib.refused url.toList = some true)
    (path : List Char) :
    Urls.isHttps lib.refused (url ++ String.ofList ('/' :: path)).toList = some true := by
  rw [String.toList_append, String.toList_ofList]
  exact Urls.isHttps_append h path

theorem isHttps_targetUrl {baseUrl : String}
    (h : Urls.isHttps lib.refused (depositionsUrl baseUrl).toList = some true) (filename : String) :
    Urls.isHttps lib.refused (targetUrl (depositionsUrl baseUrl) filename).toList = some true := by
  rw [targetUrl, stripSlashes_depositionsUrl, String.toList_append, String.toList_append,
    List.append_assoc]
  exact Urls.isHttps_append h _

theorem canReturn_uploadStagedFiles {baseUrl : String} {files : List Path}
    (h : Urls.isHttps lib.refused (depositionsUrl baseUrl).toList = some true)
    (hread : ∀ file ∈ files, (fs.read file).isSome = true) :
    ∃ uploaded, (uploadStagedFiles lib fs (depositionsUrl baseUrl) files).CanReturn uploaded := by
  induction files with
  | nil => exact ⟨[], rfl⟩
  | cons file files ih =>
    rw [List.forall_mem_cons] at hread
    obtain ⟨content, hcontent⟩ := Option.isSome_iff_exists.1 hread.1
    obtain ⟨others, hothers⟩ := ih hread.2
    refine ⟨.null :: others, ?_⟩
    rw [uploadStagedFiles]
    refine (canReturn_lift (readBytes_eq_ok.2 hcontent)).bind ?_
    exact (canReturn_send _ .null (isHttps_targetUrl h _)).bind (hothers.bind rfl)

/-- A reply that gives one URL for everything. -/
def linksTo (url : String) : List (String × Json) :=
  [("links", .obj [("self", .str url), ("bucket", .str url)])]

theorem bucketUrlOf_linksTo (baseUrl : String) :
    bucketUrlOf (linksTo (depositionsUrl baseUrl)) = .ok (.str (depositionsUrl baseUrl)) ∧
      selfUrlOf lib baseUrl (linksTo (depositionsUrl baseUrl)) =
        .str (depositionsUrl baseUrl) := by
  have htruthy : Json.truthy (.str (depositionsUrl baseUrl)) = true := by
    simp [Json.truthy, depositionsUrl]
  constructor
  · simp [bucketUrlOf, linksOf, linksTo, List.lookup_cons, htruthy, Option.filter]
  · simp [selfUrlOf, linksOf, linksTo, List.lookup_cons, htruthy, Option.filter]

/-- **What a deposit does request** for some replies: the update of the metadata, and the
publication if all staged files can be read. -/
theorem requests_of_deposit {C : Call → Prop} (h : (deposit lib env fs payload prepared).Only C)
    (hurl : Urls.isHttps lib.refused (depositionsUrl prepared.baseUrl).toList = some true) :
    (∃ url, C (.update url prepared.metadata)) ∧
      (payload.truthy "publish" = true →
        (∀ file ∈ prepared.stagedFiles, (fs.read file).isSome = true) → ∃ url,
          C (.publish url)) := by
  obtain ⟨hbucket, hself⟩ := @bucketUrlOf_linksTo lib prepared.baseUrl
  have h := Prog.Only.right h
    (canReturn_send _ (.obj (linksTo (depositionsUrl prepared.baseUrl))) hurl)
  have h := Prog.Only.right h (canReturn_lift (x := members _) rfl)
  have h := Prog.Only.right h (canReturn_lift hbucket)
  simp only [hself] at h
  refine ⟨⟨_, sent_of_only (Prog.Only.left h) hurl⟩, fun hpublish hread => ?_⟩
  have h := Prog.Only.right h (canReturn_send _ .null hurl)
  have h := Prog.Only.right h (canReturn_lift (x := bucketText _) rfl)
  have h := Prog.Only.right h (canReturn_send _ .null (isHttps_targetUrl hurl _))
  obtain ⟨uploaded, huploaded⟩ := canReturn_uploadStagedFiles hurl hread
  have h := Prog.Only.right h huploaded
  rw [finish] at h
  have h := Prog.Only.left h
  rw [if_pos hpublish] at h
  exact ⟨_, sent_of_only h (isHttps_path hurl "actions/publish".toList)⟩

/-- The payload is accepted for a dataset, and the first request is sent. -/
structure Exported (lib : Libraries) (env : Env) (fs : FileSystem) (dataset : Dataset)
    (payload : Payload) (files : List Path) : Prop where
  token : env.accessToken.any (· != "") = true
  gate : validateReleaseGate dataset payload (accessRightForDataset dataset payload) = .ok ()
  staged : stagedFilesFromPayload env fs payload = .ok files
  base : checkBaseUrl lib env = .ok (zenodoApiBaseUrl lib env)
  url : Urls.isHttps lib.refused (depositionsUrl (zenodoApiBaseUrl lib env)).toList = some true

theorem checkBaseUrl_eq_ok {baseUrl : String} (h : checkBaseUrl lib env = .ok baseUrl) :
    baseUrl = zenodoApiBaseUrl lib env := by
  unfold checkBaseUrl at h
  split at h
  · cases h
  · split_ifs at h
    exact (Except.ok.inj h).symm

theorem only_deposit_of_not_https {C : Call → Prop}
    (h : Urls.isHttps lib.refused (depositionsUrl prepared.baseUrl).toList ≠ some true) :
    (deposit lib env fs payload prepared).Only C := by
  have hsend : (send lib (.str (depositionsUrl prepared.baseUrl)) .create).Only C ∧
      (send lib (.str (depositionsUrl prepared.baseUrl)) .create).Returning fun _ => False := by
    rw [send]
    cases hvalidate : validateHttpsUrl lib (.str (depositionsUrl prepared.baseUrl)) with
    | ok target =>
      obtain ⟨htarget, hurl⟩ := validateHttpsUrl_eq_ok.1 hvalidate
      exact absurd (Json.str.inj htarget ▸ hurl) h
    | error e => exact ⟨trivial, trivial⟩
  exact hsend.1.bind_returning hsend.2 fun _ hfalse => hfalse.elim

/-- **When the gates of a release hold.** They hold for every reply of Zenodo exactly if, where the
payload is accepted and the first request is sent, the payload asks for open access only to a public
dataset, and asks for a publication with an approval that is the value `true` (unless a staged file
cannot be read, so that the publication is not reached). -/
theorem gates_hold_iff (lib : Libraries) (env : Env) (fs : FileSystem) (catalogue : Catalogue)
    (payload : Payload) :
    GatesHold lib env fs catalogue payload ↔
      ∀ dataset files, Chosen catalogue payload dataset →
        Exported lib env fs dataset payload files →
        (payload.lookup "access_right" = some (.str "open") → dataset.classification = "public") ∧
        (payload.truthy "publish" = true → (∀ file ∈ files, (fs.read file).isSome = true) →
          payload.lookup "legal_review_approved" = some (.bool true)) := by
  refine ⟨fun h dataset files hchosen hexported => ?_, fun h => ⟨?_, ?_⟩⟩
  · obtain ⟨datasetId, hid, hdataset⟩ := hchosen
    -- The payload is prepared, and the two requests are made for some replies.
    have hprepared : prepare lib env fs catalogue payload = .ok
        { datasetId, dataset, dmp := linkedDmp catalogue dataset
          metadata := .obj [("metadata", .obj (metadataFields env dataset
            (linkedDmp catalogue dataset) payload (accessRightForDataset dataset payload)))]
          stagedFiles := files, baseUrl := zenodoApiBaseUrl lib env } :=
      prepare_eq_ok.2 ⟨hid, hexported.token, hdataset, rfl,
        bind_eq_ok.2 ⟨(), hexported.gate, rfl⟩, hexported.staged, hexported.base⟩
    have hdeposit := h.permitted
    rw [exportDatasetToZenodo, hprepared] at hdeposit
    obtain ⟨hupdate, hpublish⟩ := requests_of_deposit hdeposit hexported.url
    constructor
    · intro hopen
      obtain ⟨_, dataset', hchosen', hpermitted⟩ := hupdate
      cases hchosen'.unique ⟨datasetId, hid, hdataset⟩
      refine hpermitted ?_
      rw [accessRight_of_request hopen]
      rfl
    · intro hasked hread
      obtain ⟨_, dataset', -, hpermitted⟩ := hpublish hasked hread
      exact hpermitted
  · -- a base URL that is not https stops the first request, and the condition says nothing of it
    refine only_of_prepare fun prepared hprepared => ?_
    have hchosen := chosen_of_prepare hprepared
    obtain ⟨-, htoken, -, hdmp, hmetadata, hstaged, hbase⟩ := prepare_eq_ok.1 hprepared
    obtain ⟨hright, hgate⟩ := buildZenodoMetadata_eq_ok hmetadata
    by_cases hurl : Urls.isHttps lib.refused (depositionsUrl prepared.baseUrl).toList = some true
    · rw [checkBaseUrl_eq_ok hbase] at hurl hbase
      obtain ⟨hopen, hpublish⟩ := h prepared.dataset prepared.stagedFiles hchosen
        ⟨htoken, hgate, hstaged, hbase, hurl⟩
      refine only_deposit (fun _ => ⟨_, hchosen, trivial⟩) (fun _ => ⟨_, hchosen, fun hsent => ?_⟩)
        (fun _ => ⟨_, hchosen, .inl (by rw [manifestBytes, hdmp])⟩)
        (fun file hfile content hcontent bucket => ⟨_, hchosen,
          .inr ⟨_, hstaged, file, hfile, bucket, rfl, hcontent, ?_⟩⟩)
        fun hasked hread _ => ⟨_, hchosen, hpublish hasked hread⟩
      · rw [hright, Option.some_inj, Json.str.injEq] at hsent
        exact (accessRight_open hsent).elim hopen id
      · exact inStaging_of_staged hstaged file hfile
    · exact only_deposit_of_not_https hurl
  · -- a payload that the gate or the staging directory refuses is not prepared
    rintro dataset hchosen (⟨e, hgate⟩ | ⟨e, hstaged⟩)
    · refine only_of_prepare fun prepared hprepared => ?_
      obtain ⟨-, -, -, -, hmetadata, -, -⟩ := prepare_eq_ok.1 hprepared
      rw [hchosen.unique (chosen_of_prepare hprepared),
        (buildZenodoMetadata_eq_ok hmetadata).2] at hgate
      cases hgate
    · refine only_of_prepare fun prepared hprepared => ?_
      cases (prepare_eq_ok.1 hprepared).2.2.2.2.2.1.symm.trans hstaged

/-- A payload that asks for open access and a publication, with the approval `"false"`. -/
def uncheckedPayload : Payload :=
  [("dataset_id", .str "dataset.sample"), ("access_right", .str "open"), ("publish", .bool true),
    ("legal_review_approved", .str "false")]

/-- A confidential dataset is opened, and it is published without an approval. -/
theorem confidential_published :
    let calls := ((exportDatasetToZenodo sampleLibraries sampleEnv sampleFiles
      (sampleCatalogue "confidential") uncheckedPayload).run (zenodo.logged fun _ => true) []
        (sampleState, [])).2.2
    (calls.any fun
      | .update _ metadata => sentAccessRight metadata == some (.str "open")
      | _ => false) = true ∧
    (calls.any fun
      | .publish _ => true
      | _ => false) = true ∧
    Chosen (sampleCatalogue "confidential") uncheckedPayload
      ⟨"dataset.sample", "Sample", "derived", "confidential", "mediated", none, []⟩ ∧
    uncheckedPayload.lookup "legal_review_approved" ≠ some (.bool true) := by
  refine ⟨by decide +kernel, by decide +kernel, ⟨"dataset.sample", rfl, rfl⟩, by decide⟩

end ArchiDeal.Console.Zenodo

import ArchiDeal.Lib.Calls
import ArchiDeal.Lib.Fields
import ArchiDeal.Lib.Urls

/-!
# Exports to Zenodo

`management_console/zenodo.py`: a dataset of the catalogue becomes a deposit of Zenodo. The script
checks the payload, creates a deposition, puts its metadata, uploads a manifest and the staged
files, and publishes the deposition if the payload asks for it.

* `prepare`: everything before the first request, with the gates of a release;
* `deposit`: the requests;
* `exportDatasetToZenodo`: the whole export.

The file system does not change during an export. Below `urlopen` everything is a reply of Zenodo.
-/

namespace ArchiDeal.Console.Zenodo

open Text Calls

/-! ### The surroundings -/

/-- What the module takes from the libraries of Python. -/
structure Libraries where
  /-- The network locations for which `urlparse` raises a `ValueError`. -/
  refused : List Char → Bool
  /-- `urlparse(url).hostname`. -/
  hostname : String → Option String
  lower : String → String
  /-- `str(v)` of a JSON value. -/
  str : Json → String
  /-- `json.dumps(v, sort_keys=True, indent=2).encode("utf-8")`. -/
  dumps : Json → List UInt8

/-- The environment of the process. -/
structure Env where
  accessToken : Option String
  apiBaseUrl : Option String
  useSandbox : Option String
  stagingDir : Option String
  defaultCreatorName : Option String
  defaultCreatorAffiliation : Option String
  defaultLicense : Option String
  /-- `datetime.now(UTC).date().isoformat()`. -/
  today : String
  now : String

/-- Absolute paths, as the lists of their parts. -/
abbrev Path := List String

structure FileSystem where
  /-- The working directory. -/
  cwd : Path
  /-- `path.resolve()`; `none` if it raises an exception. -/
  resolve : Path → Option Path
  resolve_resolved : ∀ {path real}, resolve path = some real → resolve real = some real
  isFile : Path → Bool
  /-- `path.read_bytes()`; `none` for an `OSError`. -/
  read : Path → Option (List UInt8)

/-- A record of the catalogue of datasets; `rest` are the fields that are only copied. -/
structure Dataset where
  datasetId : String
  title : String
  datasetType : String
  classification : String
  accessMode : String
  dmpId : Option String
  rest : List (String × Json)

def Dataset.json (dataset : Dataset) : Json :=
  .obj ([("dataset_id", .str dataset.datasetId), ("title", .str dataset.title),
    ("dataset_type", .str dataset.datasetType), ("classification", .str dataset.classification),
    ("access_mode", .str dataset.accessMode)] ++
    (dataset.dmpId.map fun dmpId => ("dmp_id", Json.str dmpId)).toList ++ dataset.rest)

/-- A record of the data management plans. -/
structure Dmp where
  dmpId : String
  rest : List (String × Json)

def Dmp.json (dmp : Dmp) : Json := .obj (("dmp_id", .str dmp.dmpId) :: dmp.rest)

/-- `DATASETS` and `DATA_MANAGEMENT_PLANS`. -/
structure Catalogue where
  datasets : List Dataset
  dmps : List Dmp

/-- The members of the JSON object that is exported. -/
abbrev Payload := List (String × Json)

def Payload.truthy (payload : Payload) (field : String) : Bool :=
  (payload.lookup field).any Json.truthy

/-- `payload.get(field) or fallback`. -/
def Payload.orElse (payload : Payload) (field : String) (fallback : Json) : Json :=
  ((payload.lookup field).filter Json.truthy).getD fallback

inductive Raised
  | exportError (status : ℕ) (code detail : String)
  | attributeError
  | valueError
  | osError
  /-- What `urlopen`, `decode` and `json.loads` raise besides `OSError`. -/
  | responseError
  deriving DecidableEq

/-- The answers to a request. -/
inductive Response
  /-- A JSON value; an empty body counts as an empty object. -/
  | json (v : Json)
  | httpError (status : ℕ) (body : String)
  | unreachable (detail : String)
  | invalid

/-- The requests. -/
inductive Call
  | create (url : String)
  | update (url : String) (metadata : Json)
  | upload (url : String) (content : List UInt8)
  | publish (url : String)

/-- Zenodo: its next answer, and the uploads it has stored, in order. -/
structure State where
  next : Response
  uploads : List (String × List UInt8)

/-- Zenodo answers in any way; an upload with a good answer is stored. -/
def zenodo : Server State Call (fun _ => Response) Response where
  reply _ s := s.next
  effect
    | .upload url content, s =>
      match s.next with
      | .json _ => { s with uploads := s.uploads ++ [(url, content)] }
      | _ => s
    | _, s => s
  drift next s := { s with next := next }

/-- A part of the export. -/
abbrev Script := Prog Call (fun _ => Response) Raised

/-! ### Before the first request -/

section Export

variable (lib : Libraries) (env : Env) (fs : FileSystem) (catalogue : Catalogue)

def truthyEnv (value : Option String) (fallback : Bool) : Bool :=
  match value with
  | none => fallback
  | some value => ["1", "true", "yes", "on"].contains (lib.lower (strip value))

/-- `url.rstrip("/")`. -/
def stripSlashes (url : String) : String :=
  String.ofList (url.toList.reverse.dropWhile (· = '/')).reverse

def zenodoApiBaseUrl : String :=
  match env.apiBaseUrl.filter (· != "") with
  | some configured => stripSlashes configured
  | none =>
    if truthyEnv lib env.useSandbox true then "https://sandbox.zenodo.org/api"
    else "https://zenodo.org/api"

def validateHttpsUrl (url : Json) : Except Raised String :=
  match url with
  | .str s =>
    match Urls.isHttps lib.refused s.toList with
    | some true => .ok s
    | some false => .error (.exportError 502 "invalid_zenodo_response_url"
        "Zenodo response included a non-HTTPS or malformed URL.")
    | none => .error .valueError
  | _ => .error .attributeError

def findDataset (datasetId : String) : Except Raised Dataset :=
  match catalogue.datasets.find? (·.datasetId == datasetId) with
  | some dataset => .ok dataset
  | none => .error (.exportError 404 "dataset_not_found" ("Unknown dataset_id: " ++ datasetId))

def linkedDmp (dataset : Dataset) : Option Dmp :=
  catalogue.dmps.find? fun dmp => some dmp.dmpId == dataset.dmpId

def defaultCreators (payload : Payload) : Json :=
  let named : List Json := match payload.lookup "creators" with
    | some (.arr creators) => creators.filter fun creator =>
        creator.isObj && (creator.get? "name").any Json.truthy
    | _ => []
  if named.isEmpty then
    .arr [.obj [("name", .str (env.defaultCreatorName.getD "DEALIoT Consortium")),
      ("affiliation", .str (env.defaultCreatorAffiliation.getD "DEALIoT"))]]
  else .arr named

def accessRightForDataset (dataset : Dataset) (payload : Payload) : String :=
  let byMode := if dataset.accessMode = "open" ∧ dataset.classification = "public" then "open"
    else if dataset.accessMode = "embargoed" then "embargoed" else "restricted"
  match payload.lookup "access_right" with
  | some (.str requested) =>
    if ["open", "restricted", "embargoed"].contains requested then requested else byMode
  | _ => byMode

def nonOpenClassifications : List String :=
  ["internal", "restricted", "personal", "sensitive", "mixed"]

def validateReleaseGate (dataset : Dataset) (payload : Payload) (accessRight : String) :
    Except Raised Unit := do
  ensure (!(accessRight == "open" && nonOpenClassifications.contains dataset.classification))
    (.exportError 409 "open_release_blocked"
      "Open Zenodo release is blocked for non-public or personal datasets.")
  ensure (!(payload.truthy "publish" && !payload.truthy "legal_review_approved"))
    (.exportError 409 "legal_review_required"
      "Publishing to Zenodo requires legal_review_approved=true.")

def zenodoDescription (dataset : Dataset) (dmp : Option Dmp) : String :=
  "DEALIoT dataset export for " ++ dataset.datasetId ++ ". Classification: " ++
    dataset.classification ++ ". Access mode: " ++ dataset.accessMode ++
    ". Linked Data Management Plan: " ++ (dmp.map (·.dmpId)).getD "missing" ++
    ". This export must follow the dataset catalogue, DMP, GDPR legal-basis, " ++
    "Data Act and DGA release gates before publication."

def metadataFields (dataset : Dataset) (dmp : Option Dmp) (payload : Payload)
    (accessRight : String) : List (String × Json) :=
  [("title", payload.orElse "title" (.str dataset.title)), ("upload_type", .str "dataset"),
    ("description", payload.orElse "description" (.str (zenodoDescription dataset dmp))),
    ("creators", defaultCreators env payload),
    ("publication_date", payload.orElse "publication_date" (.str env.today)),
    ("access_right", .str accessRight),
    ("keywords", .arr [.str "DEALIoT", .str "IoT", .str "research data", .str dataset.datasetType,
      .str dataset.classification]),
    ("notes", .str ("Generated by the DEALIoT management console. " ++
      "Evidence topic: governance.repository.exports."))] ++
  (if accessRight = "open" then
    [("license", payload.orElse "license" (.str (env.defaultLicense.getD "cc-by-4.0")))]
  else
    [("access_conditions", payload.orElse "access_conditions"
      (.str ("Files are restricted until dataset catalogue, DMP, privacy, Data Act and DGA " ++
        "release checks are approved.")))]) ++
  (match payload.lookup "communities" with
  | some (.arr communities) => [("communities", .arr communities)]
  | _ => [])

def buildZenodoMetadata (dataset : Dataset) (dmp : Option Dmp) (payload : Payload) :
    Except Raised Json := do
  let accessRight := accessRightForDataset dataset payload
  validateReleaseGate dataset payload accessRight
  return .obj [("metadata", .obj (metadataFields env dataset dmp payload accessRight))]

def pathParts (text : String) : List String :=
  ((text.toList.splitOn '/').map String.ofList).filter fun part => part != "" && part != "."

/-- `base / text`. -/
def joinPath (base : Path) (text : String) : Path :=
  if text.toList.head? = some '/' then pathParts text else base ++ pathParts text

def stagedFile (baseDir : Path) (relativeName : Json) : Except Raised Path :=
  match relativeName with
  | .str name =>
    if strip name = "" then
      .error (.exportError 400 "invalid_staged_file"
        "Each staged file must be a non-empty relative path.")
    else
      match fs.resolve (joinPath baseDir name) with
      | none => .error .valueError
      | some candidate =>
        if baseDir.isPrefixOf candidate && fs.isFile candidate then .ok candidate
        else .error (.exportError 400 "invalid_staged_file"
          ("Staged file is outside the export directory or missing: " ++ name))
  | _ => .error (.exportError 400 "invalid_staged_file"
      "Each staged file must be a non-empty relative path.")

/-- `Path(staging_dir).resolve()`. -/
def baseDirectory (stagingDir : String) : Except Raised Path :=
  match fs.resolve (joinPath fs.cwd stagingDir) with
  | some baseDir => .ok baseDir
  | none => .error .valueError

def stagedFilesFromPayload (payload : Payload) : Except Raised (List Path) :=
  match payload.lookup "staged_files" with
  | none | some .null | some (.str "") => .ok []
  | some (.arr []) => .ok []
  | some (.arr files) =>
    match env.stagingDir.filter (· != "") with
    | none => .error (.exportError 409 "missing_staging_dir"
        "Set ZENODO_EXPORT_STAGING_DIR before uploading dataset files.")
    | some stagingDir => do
      let baseDir ← baseDirectory fs stagingDir
      files.mapM (stagedFile fs baseDir)
  | some _ => .error (.exportError 400 "invalid_staged_files"
      "staged_files must be a list of file names relative to ZENODO_EXPORT_STAGING_DIR.")

/-- The first check of `export_dataset_to_zenodo`. -/
def datasetIdOf (payload : Payload) : Except Raised String :=
  match payload.lookup "dataset_id" with
  | some (.str datasetId) =>
    if strip datasetId = "" then
      .error (.exportError 400 "missing_dataset_id" "dataset_id is required.")
    else .ok datasetId
  | _ => .error (.exportError 400 "missing_dataset_id" "dataset_id is required.")

def checkBaseUrl : Except Raised String :=
  match Urls.urlsplit lib.refused (zenodoApiBaseUrl lib env).toList with
  | none => .error .valueError
  | some parts =>
    if parts.1 = "https".toList then .ok (zenodoApiBaseUrl lib env)
    else .error (.exportError 400 "invalid_zenodo_api_base_url"
      "ZENODO_API_BASE_URL must use HTTPS.")

/-- What is known before the first request. -/
structure Prepared where
  datasetId : String
  dataset : Dataset
  dmp : Option Dmp
  metadata : Json
  stagedFiles : List Path
  baseUrl : String

/-- `export_dataset_to_zenodo` up to the first request. -/
def prepare (payload : Payload) : Except Raised Prepared := do
  let datasetId ← datasetIdOf payload
  ensure (env.accessToken.any (· != "")) (.exportError 409 "missing_zenodo_token"
    "Set ZENODO_ACCESS_TOKEN before exporting to Zenodo.")
  let dataset ← findDataset catalogue datasetId
  let dmp := linkedDmp catalogue dataset
  let metadata ← buildZenodoMetadata env dataset dmp payload
  let stagedFiles ← stagedFilesFromPayload env fs payload
  let baseUrl ← checkBaseUrl lib env
  return { datasetId, dataset, dmp, metadata, stagedFiles, baseUrl }

/-! ### The requests -/

def parseJsonResponse : Response → Except Raised Json
  | .json v => .ok v
  | .httpError status body => .error (.exportError status "zenodo_http_error" body)
  | .unreachable detail => .error (.exportError 502 "zenodo_unreachable" detail)
  | .invalid => .error .responseError

/-- `_json_request` and `_bytes_request`. -/
def send (url : Json) (call : String → Call) : Script Json := do
  let target ← (Prog.lift (validateHttpsUrl lib url) : Script String)
  let response ← (Prog.invoke (call target) : Script Response)
  Prog.lift (parseJsonResponse response)

/-- The members of a reply, for `.get`. -/
def members : Json → Except Raised (List (String × Json))
  | .obj kvs => .ok kvs
  | _ => .error .attributeError

/-- The characters that are left by `re.sub` in the name of a manifest. -/
def nameChar (c : Char) : Bool := alphaDigit c || "_.-".toList.contains c

/-- `re.sub(r"[^A-Za-z0-9_.-]+", "-", …)`; `run` says that the last character was replaced. -/
def dashRuns (run : Bool) : List Char → List Char
  | [] => []
  | c :: cs =>
    if nameChar c then c :: dashRuns false cs
    else if run then dashRuns true cs else '-' :: dashRuns true cs

def manifestFilename (datasetId : String) : String :=
  let dashed := dashRuns false datasetId.toList
  let safeName := String.ofList
    ((dashed.dropWhile (· = '-')).reverse.dropWhile (· = '-')).reverse
  (if safeName = "" then "dataset" else safeName) ++ ".zenodo-manifest.json"

def buildZenodoManifest (dataset : Dataset) (dmp : Option Dmp) : Json :=
  .obj [("manifest_type", .str "dealiot.zenodo.dataset_export"), ("generated_at", .str env.now),
    ("repository", .str "Zenodo"), ("evidence_topic", .str "governance.repository.exports"),
    ("dataset", dataset.json), ("data_management_plan", (dmp.map Dmp.json).getD .null),
    ("release_gates", .arr [.str "dataset catalogue record approved",
      .str "Data Management Plan active or approved",
      .str "GDPR legal basis and DPIA reviewed where personal data is present",
      .str "Data Act user entitlement and third-party safeguards reviewed",
      .str "DGA research protocol, ethics status and disclosure review completed",
      .str "raw GPS, media or personal datasets are not released openly by default"])]

def manifestBytes (prepared : Prepared) : List UInt8 :=
  lib.dumps (buildZenodoManifest env prepared.dataset prepared.dmp)

/-- `staged_file.name`. -/
def Path.name (path : Path) : String := path.getLast?.getD ""

/-- The URL of an upload: `f"{bucket_url.rstrip('/')}/{quote(filename)}"`. -/
def targetUrl (bucket filename : String) : String :=
  stripSlashes bucket ++ "/" ++ Urls.quote (fun c => Urls.unreserved c || c == '/') filename

def uploadFileToBucket (bucket filename : String) (content : List UInt8) : Script Json :=
  send lib (.str (targetUrl bucket filename)) fun url => .upload url content

def readBytes (file : Path) : Except Raised (List UInt8) :=
  match fs.read file with
  | some content => .ok content
  | none => .error .osError

def uploadStagedFiles (bucket : String) : List Path → Script (List Json)
  | [] => pure []
  | file :: files => do
    let content ← (Prog.lift (readBytes fs file) : Script (List UInt8))
    let uploaded ← uploadFileToBucket lib bucket file.name content
    let others ← uploadStagedFiles bucket files
    return uploaded :: others

/-- `bucket_url.rstrip` needs a text. -/
def bucketText : Json → Except Raised String
  | .str bucket => .ok bucket
  | _ => .error .attributeError

/-- The text of a value in an f-string. -/
def interpolated : Json → String
  | .str s => s
  | v => lib.str v

/-- The last part of `export_dataset_to_zenodo`: the publication, and what is returned. -/
def finish (payload : Payload) (prepared : Prepared) (links : List (String × Json))
    (depositionId selfUrl updated : Json) (uploadedFiles : List Json) : Script Json := do
  let published ← (if payload.truthy "publish" then
      send lib (((links.lookup "publish").filter Json.truthy).getD
        (.str (interpolated lib selfUrl ++ "/actions/publish"))) .publish
    else pure .null : Script Json)
  let latest ← (Prog.lift (members (if published.truthy then published else updated)) :
    Script (List (String × Json)))
  let latestLinks := match latest.lookup "links" with
    | some (.obj links) => links
    | _ => links
  return .obj
    [("status", .str (if published = .null then "draft_created" else "published")),
      ("repository", .str "Zenodo"),
      ("sandbox", .bool (lib.hostname prepared.baseUrl == some "sandbox.zenodo.org")),
      ("dataset_id", .str prepared.datasetId),
      ("dmp_id", (prepared.dataset.dmpId.map Json.str).getD .null),
      ("deposition_id", (latest.lookup "id").getD depositionId),
      ("record_id", (latest.lookup "record_id").getD .null),
      ("doi", (latest.lookup "doi").getD .null),
      ("record_url", ((latest.lookup "record_url").filter Json.truthy).getD
        ((latestLinks.lookup "html").getD .null)),
      ("links", .obj latestLinks), ("uploaded_files", .arr uploadedFiles),
      ("publish_requested", .bool (payload.truthy "publish")),
      ("legal_review_approved", .bool (payload.truthy "legal_review_approved")),
      ("evidence_topic", .str "governance.repository.exports")]

def linksOf (deposition : List (String × Json)) : List (String × Json) :=
  match deposition.lookup "links" with
  | some (.obj links) => links
  | _ => []

/-- `links.get("self")`, or the URL made from the identifier. -/
def selfUrlOf (baseUrl : String) (deposition : List (String × Json)) : Json :=
  (((linksOf deposition).lookup "self").filter Json.truthy).getD
    (.str (baseUrl ++ "/deposit/depositions/" ++
      interpolated lib ((deposition.lookup "id").getD .null)))

/-- `links.get("bucket")`. -/
def bucketUrlOf (deposition : List (String × Json)) : Except Raised Json :=
  match ((linksOf deposition).lookup "bucket").filter Json.truthy with
  | some bucketUrl => .ok bucketUrl
  | none => .error (.exportError 502 "missing_zenodo_bucket"
      "Zenodo response did not include a bucket upload URL.")

/-- `export_dataset_to_zenodo` from the first request on. -/
def deposit (payload : Payload) (prepared : Prepared) : Script Json := do
  let created ← send lib (.str (prepared.baseUrl ++ "/deposit/depositions")) .create
  let deposition ← (Prog.lift (members created) : Script (List (String × Json)))
  let selfUrl := selfUrlOf lib prepared.baseUrl deposition
  let bucketUrl ← (Prog.lift (bucketUrlOf deposition) : Script Json)
  let updated ← send lib selfUrl fun url => .update url prepared.metadata
  let bucket ← (Prog.lift (bucketText bucketUrl) : Script String)
  let manifest ← uploadFileToBucket lib bucket (manifestFilename prepared.datasetId)
    (manifestBytes lib env prepared)
  let staged ← uploadStagedFiles lib fs bucket prepared.stagedFiles
  finish lib payload prepared (linksOf deposition) ((deposition.lookup "id").getD .null) selfUrl
    updated (manifest :: staged)

def exportDatasetToZenodo (payload : Payload) : Script Json := do
  let prepared ← (Prog.lift (prepare lib env fs catalogue payload) : Script Prepared)
  deposit lib env fs payload prepared

end Export

/-! ### Specifications of the checks -/

section Checks

variable {lib : Libraries} {fs : FileSystem}

theorem validateHttpsUrl_eq_ok {url : Json} {target : String} :
    validateHttpsUrl lib url = .ok target ↔
      url = .str target ∧ Urls.isHttps lib.refused target.toList = some true := by
  unfold validateHttpsUrl
  split
  · rename_i s
    split
    · rename_i h
      constructor
      · rintro ⟨⟩
        exact ⟨rfl, h⟩
      · rintro ⟨⟨⟩, -⟩
        rfl
    · rename_i h
      refine ⟨nofun, ?_⟩
      rintro ⟨⟨⟩, h'⟩
      rw [h] at h'
      cases h'
    · rename_i h
      refine ⟨nofun, ?_⟩
      rintro ⟨⟨⟩, h'⟩
      rw [h] at h'
      cases h'
  · rename_i hne
    exact ⟨nofun, fun h => absurd h.1 (hne target)⟩

theorem readBytes_eq_ok {file : Path} {content : List UInt8} :
    readBytes fs file = .ok content ↔ fs.read file = some content := by
  unfold readBytes
  cases fs.read file <;> simp

end Checks

/-! ### Samples -/

def sampleLibraries : Libraries where
  refused _ := false
  hostname _ := some "sandbox.zenodo.org"
  lower s := s
  str _ := ""
  dumps _ := [0]

/-- An environment with a token and a staging directory. -/
def sampleEnv : Env where
  accessToken := some "token"
  apiBaseUrl := none
  useSandbox := none
  stagingDir := some "/staging"
  defaultCreatorName := none
  defaultCreatorAffiliation := none
  defaultLicense := none
  today := "2026-01-01"
  now := "2026-01-01T00:00:00+00:00"

/-- A file system without links, whose files have their lengths as contents. -/
def sampleFiles : FileSystem where
  cwd := []
  resolve path := some path
  resolve_resolved _ := rfl
  isFile path := path.length = 3
  read path := some [if path.contains "a" then 1 else 2]

def sampleCatalogue (classification : String) : Catalogue where
  datasets := [⟨"dataset.sample", "Sample", "derived", classification, "mediated", none, []⟩]
  dmps := []

/-- A payload with staged files. -/
def samplePayload (files : List String) : Payload :=
  [("dataset_id", .str "dataset.sample"), ("staged_files", .arr (files.map .str))]

/-- Zenodo answers every request with the links of the deposition. -/
def sampleState : State where
  next := .json (.obj [("links", .obj [("self", .str "https://zenodo.org/1"),
    ("bucket", .str "https://zenodo.org/bucket")])])
  uploads := []

end ArchiDeal.Console.Zenodo

import ArchiDeal.Reconciler.Contract

/-!
# Refused payloads

`parse_desired_deployment` refuses a payload with a `ContractError` of its own or with an exception
that it does not expect; it never raises the exceptions by which the reconciler says that a
deployment does not exist or is in conflict with the request.
-/

namespace ArchiDeal.Reconciler

open Text Hosting

/-- The exceptions of the parser. -/
def ControllerError.IsRefusal : ControllerError → Prop
  | contract _ _ _ | fields _ _ _ | unexpected => True
  | notFound | conflict _ => False

/-- The parts of the parser raise nothing else. -/
abbrev Refuses {α : Type} (x : Except ControllerError α) : Prop :=
  Raises ControllerError.IsRefusal x

variable {α β : Type}

theorem refuses_object (value : Option Json) (label : String) : Refuses (object value label) := by
  unfold object
  split
  · exact raises_ok _
  · exact raises_error trivial

theorem refuses_positiveInt (value : Option Json) (label : String) :
    Refuses (positiveInt value label) := by
  unfold positiveInt
  split
  · split_ifs
    · exact raises_ok _
    · exact raises_error trivial
  · exact raises_error trivial

theorem refuses_validateDeploymentId (value : Option Json) :
    Refuses (validateDeploymentId value) := by
  unfold validateDeploymentId
  split
  · split_ifs
    · exact raises_ok _
    · exact raises_error trivial
  · exact raises_error trivial

theorem refuses_stringField {value : Option Json} {p : String → Bool} {detail code : String}
    {status : ℕ} : Refuses (stringField value p (.contract detail code status)) := by
  unfold stringField
  split
  · split_ifs
    · exact raises_ok _
    · exact raises_error trivial
  · exact raises_error trivial

theorem refuses_exactFields (value : Json) (allowed : List String) (label : String)
    (optional : List String) : Refuses (exactFields value allowed label optional) :=
  raises_ensure _ trivial

theorem refuses_mapM {f : β → Except ControllerError α} {xs : List β}
    (h : ∀ x ∈ xs, Refuses (f x)) : Refuses (xs.mapM f) := by
  induction xs with
  | nil => exact raises_ok _
  | cons x xs ih =>
    rw [List.forall_mem_cons] at h
    rw [List.mapM_cons]
    exact h.1.bind fun _ => (ih h.2).bind fun _ => raises_ok _

theorem refuses_resourceGroup (resources : Json) (slug group : String) :
    Refuses (resourceGroup resources slug group) :=
  (refuses_object _ _).bind fun _ => (refuses_exactFields _ _ _ _).bind fun _ =>
    refuses_stringField.bind fun _ => refuses_stringField.bind fun _ =>
      raises_ok _

theorem refuses_parseResources (value : Option Json) (slug : String) :
    Refuses (parseResources value slug) := by
  refine (refuses_object _ _).bind fun _ => (refuses_exactFields _ _ _ _).bind fun _ =>
    (refuses_resourceGroup _ _ _).bind fun _ => (refuses_resourceGroup _ _ _).bind fun _ => ?_
  dsimp only
  split
  · split_ifs
    · exact raises_error trivial
    · split
      · split_ifs
        · exact raises_error trivial
        · exact raises_ok _
      · exact raises_error trivial
  · exact raises_error trivial

theorem refuses_keySet (configuration : Json) (group slug : String) :
    Refuses (keySet configuration group slug) := by
  unfold keySet
  split
  · exact raises_ok _
  · exact raises_error trivial

theorem refuses_parseProfile (moduleId : ℕ) (slug image : String) (spec : Json) :
    Refuses (parseProfile moduleId slug image spec) := by
  refine (refuses_exactFields _ _ _ _).bind fun _ => (raises_ensure _ trivial).bind fun _ =>
    (refuses_positiveInt _ _).bind fun _ => (raises_ensure _ trivial).bind fun _ =>
    refuses_stringField.bind fun _ => (refuses_parseResources _ _).bind fun _ =>
    (refuses_object _ _).bind fun _ => (refuses_exactFields _ _ _ _).bind fun _ =>
    (refuses_keySet _ _ _).bind fun _ => (refuses_keySet _ _ _).bind fun _ =>
    (raises_ensure _ trivial).bind fun _ => ?_
  split
  · exact raises_ok _
  · exact raises_error trivial
  · exact raises_error trivial

variable (settings : ControllerSettings)

theorem refuses_parseModule (parsed : List ManifestComponent) (raw : Json) :
    Refuses (parseModule settings parsed raw) :=
  (refuses_object _ _).bind fun _ => (refuses_exactFields _ _ _ _).bind fun _ =>
    (refuses_positiveInt _ _).bind fun _ => refuses_stringField.bind fun _ =>
    refuses_stringField.bind fun _ => (raises_ensure _ trivial).bind fun _ =>
    (refuses_object _ _).bind fun _ => refuses_stringField.bind fun _ =>
    refuses_parseProfile _ _ _ _

theorem refuses_parseModules (parsed : List ManifestComponent) (modules : List Json) :
    Refuses (parseModules settings parsed modules) := by
  induction modules generalizing parsed with
  | nil => exact raises_ok _
  | cons raw rest ih => exact (refuses_parseModule settings parsed raw).bind fun _ => ih _

theorem refuses_parseManifest (manifest : Json) : Refuses (parseManifest settings manifest) := by
  refine (refuses_exactFields _ _ _ _).bind fun _ => (raises_ensure _ trivial).bind fun _ =>
    (refuses_object _ _).bind fun _ => (refuses_exactFields _ _ _ _).bind fun _ =>
    (raises_ensure _ trivial).bind fun _ => refuses_stringField.bind fun _ =>
    refuses_stringField.bind fun _ => refuses_stringField.bind fun _ => ?_
  split
  · exact (raises_ensure _ trivial).bind fun _ => refuses_parseModules settings _ _
  · exact raises_error trivial

theorem refuses_componentMapping (value : Option Json) (label : String) :
    Refuses (componentMapping value label) := by
  refine (refuses_object _ _).bind fun mapping => ?_
  split
  · refine refuses_mapM fun p _ => (raises_ensure _ trivial).bind fun _ => ?_
    split
    · exact raises_ok _
    · exact raises_error trivial
  · exact raises_error trivial

theorem refuses_validateEntries (allowed : List String) (slug : String) (secret : Bool) (total : ℕ)
    (entries : List (String × Json)) :
    Refuses (validateEntries allowed slug secret total entries) := by
  induction entries generalizing total with
  | nil => exact raises_ok _
  | cons p rest ih =>
    exact (raises_ensure _ trivial).bind fun _ => refuses_stringField.bind fun _ =>
      (raises_ensure _ trivial).bind fun _ => (raises_ensure _ trivial).bind fun _ =>
      (ih _).bind fun _ => raises_ok _

theorem refuses_scalingPolicy (value : Option Json) (slug : String) (maximumAllowed : ℕ) :
    Refuses (scalingPolicy value slug maximumAllowed) := by
  refine (refuses_object _ _).bind fun policy => ?_
  split_ifs
  · exact (refuses_exactFields _ _ _ _).bind fun _ => (refuses_positiveInt _ _).bind fun _ =>
      (raises_ensure _ trivial).bind fun _ => raises_ok _
  · exact (refuses_exactFields _ _ _ _).bind fun _ => (refuses_positiveInt _ _).bind fun _ =>
      (refuses_positiveInt _ _).bind fun _ => (refuses_positiveInt _ _).bind fun _ =>
      (raises_ensure _ trivial).bind fun _ => raises_ok _
  · exact raises_error trivial

theorem refuses_desiredComponent (configuration secretRefs : List (String × List (String × Json)))
    (scaling : Json) (c : ManifestComponent) :
    Refuses (desiredComponent settings configuration secretRefs scaling c) :=
  Raises.bind ((raises_ensure _ trivial).bind fun _ => refuses_validateEntries _ _ _ _ _) fun _ =>
    Raises.bind ((raises_ensure _ trivial).bind fun _ => refuses_validateEntries _ _ _ _ _) fun _ =>
    (refuses_scalingPolicy _ _ _).bind fun _ => raises_ok _

theorem refuses_desiredStateField (value : Option Json) (allowAbsent : Bool) :
    Refuses (desiredStateField value allowAbsent) := by
  unfold desiredStateField
  split
  · split_ifs
    · exact raises_ok _
    · exact raises_ok _
    · exact raises_ok _
    · exact raises_error trivial
  · exact raises_error trivial
  · exact raises_error trivial
  · exact raises_error trivial

/-- **The parser raises only refusals.** -/
theorem refuses_parseDesiredDeployment (allowAbsent : Bool) (value : Json) :
    Refuses (parseDesiredDeployment settings allowAbsent value) :=
  (refuses_object _ _).bind fun _ => (refuses_exactFields _ _ _ _).bind fun _ =>
    (refuses_validateDeploymentId _).bind fun _ => refuses_stringField.bind fun _ =>
    (refuses_positiveInt _ _).bind fun _ => (refuses_desiredStateField _ _).bind fun _ =>
    (refuses_object _ _).bind fun _ => (refuses_exactFields _ _ _ _).bind fun _ =>
    (refuses_object _ _).bind fun _ => refuses_stringField.bind fun _ =>
    (raises_ensure _ trivial).bind fun _ => (refuses_parseManifest settings _).bind fun _ =>
    (refuses_componentMapping _ _).bind fun _ => (refuses_componentMapping _ _).bind fun _ =>
    (refuses_object _ _).bind fun _ => (raises_ensure _ trivial).bind fun _ =>
    (raises_ensure _ trivial).bind fun _ => (raises_ensure _ trivial).bind fun _ =>
    (raises_ensure _ trivial).bind fun _ =>
    (refuses_mapM fun _ _ => refuses_desiredComponent settings _ _ _ _).bind fun _ => raises_ok _

end ArchiDeal.Reconciler

import ArchiDeal.Hosting.Models

/-!
# The client of the runtime controller

`apps/hosting/runtime_controller.py`. What the controller answers is an arbitrary JSON value; the
client turns it into a `RuntimeSnapshot` or `RuntimeLogs`, or raises. The transport
(`_request`) is outside the model: it yields a decoded body or one of the two exceptions.
-/

namespace ArchiDeal.Hosting

open Text

/-- `RuntimeControllerUnavailable` and `RuntimeControllerError`. -/
inductive ControllerException
  | unavailable (message : String)
  | error (message : String) (statusCode : Option ℤ)
  deriving DecidableEq

/-- `str(exc)`. -/
def ControllerException.message : ControllerException → String
  | .unavailable m => m
  | .error m _ => m

structure ComponentSnapshot where
  slug : String
  imageDigest : String
  desiredReplicas : ℕ
  readyReplicas : ℕ
  availableReplicas : ℕ
  state : String
  health : String
  restartCount : ℕ
  lastError : String
  deriving DecidableEq

/-- `RuntimeSnapshot`: the reported components have different slugs. -/
structure RuntimeSnapshot where
  controllerId : String
  state : ObservedState
  message : String
  observedGeneration : ℕ
  components : List ComponentSnapshot
  nodup : (components.map ComponentSnapshot.slug).Nodup
  deriving DecidableEq

structure RuntimeLogs where
  lines : List String
  cursor : String
  truncated : Bool
  deriving DecidableEq

/-- `[a-z0-9][a-z0-9-]{0,62}`. -/
def isComponentSlug (s : String) : Bool :=
  headed lowerDigit (fun c => lowerDigit c || c == '-') 0 62 s.toList

/-- `_identifier`: `[A-Za-z0-9][A-Za-z0-9._-]{0,127}`. The two other conditions of the source
are implied by the pattern, and an accepted value is its own URL quotation. -/
def identifier (value : String) : Except ControllerException String :=
  if headed alphaDigit (fun c => alphaDigit c || c == '.' || c == '_' || c == '-') 0 127
      value.toList then
    .ok value
  else .error (.error "Runtime controller identifier is invalid." none)

/-- `ALLOWED_RUNTIME_STATES`. -/
def ObservedState.ofValue? : String → Option ObservedState
  | "pending" => some .pending
  | "reconciling" => some .reconciling
  | "running" => some .running
  | "stopped" => some .stopped
  | "degraded" => some .degraded
  | "failed" => some .failed
  | "deleting" => some .deleting
  | "deleted" => some .deleted
  | "unknown" => some .unknown
  | _ => none

/-- A count of a component: an integer from 0 to 100000. -/
def count : Option Json → Option ℕ
  | some (.int n) => if 0 ≤ n ∧ n ≤ 100000 then some n.toNat else none
  | _ => none

/-- `_component_snapshot`; every refusal has the same text. -/
def componentSnapshot (value : Json) : Except ControllerException ComponentSnapshot :=
  match value.get? "slug", value.get? "image_digest", value.get? "state", value.get? "health",
    (value.get? "last_error").getD (.str ""), count (value.get? "desired_replicas"),
    count (value.get? "ready_replicas"), count (value.get? "available_replicas"),
    count (value.get? "restart_count") with
  | some (.str slug), some (.str imageDigest), some (.str state), some (.str health),
    .str lastError, some desired, some ready, some available, some restarts =>
    if isComponentSlug slug && imageDigest.length ≤ 255 && state.length ≤ 32 &&
        health.length ≤ 32 then
      .ok {
        slug := slug
        imageDigest := imageDigest
        desiredReplicas := desired
        readyReplicas := ready
        availableReplicas := available
        state := collapse 32 state
        health := collapse 32 health
        restartCount := restarts
        lastError := collapse 500 lastError }
    else .error (.error "Runtime controller returned invalid components." none)
  | _, _, _, _, _, _, _, _, _ =>
    .error (.error "Runtime controller returned invalid components." none)

/-- The deployment identifier of an answer. -/
def snapshotId (data : Json) (fallbackId : String) (requireId : Bool) (expectedId : String) :
    Except ControllerException String :=
  match (data.get? "id").getD (.str fallbackId) with
  | .str id =>
    if id = "" ∨ id.length > 128 ∨ (requireId ∧ id = fallbackId ∧ fallbackId = "") then
      .error (.error "Runtime controller omitted its deployment identifier." none)
    else match identifier id with
      | .error _ =>
        .error (.error "Runtime controller returned an invalid deployment identifier." none)
      | .ok _ =>
        if expectedId ≠ "" ∧ id ≠ expectedId then
          .error (.error "Runtime controller returned an inconsistent deployment identifier." none)
        else .ok id
  | _ => .error (.error "Runtime controller omitted its deployment identifier." none)

def snapshotComponents (data : Json) : Except ControllerException (List ComponentSnapshot) :=
  match data.get? "components" with
  | some (.arr xs) =>
    if xs.length > 100 then
      .error (.error "Runtime controller returned invalid components." none)
    else xs.mapM componentSnapshot
  | _ => .error (.error "Runtime controller returned invalid components." none)

def snapshot (data : Json) (fallbackId : String) (requireId : Bool) (expectedId : String) :
    Except ControllerException RuntimeSnapshot := do
  let controllerId ← snapshotId data fallbackId requireId expectedId
  -- a list or an object as state raises a `TypeError`, which is a `raise` of the worker
  let state ← match data.get? "state" with
    | some (.str s) => match ObservedState.ofValue? s with
      | some state => pure state
      | none => throw (.error "Runtime controller returned an invalid state." none)
    | _ => throw (.error "Runtime controller returned an invalid state." none)
  let message ← match (data.get? "message").getD (.str "") with
    | .str m => pure (collapse 500 m)
    | _ => throw (.error "Runtime controller returned an invalid status message." none)
  let observedGeneration ← match data.get? "observed_generation" with
    | some (.int n) =>
      if n < 0 then
        throw (.error "Runtime controller returned an invalid observed generation." none)
      else pure n.toNat
    | _ => throw (.error "Runtime controller returned an invalid observed generation." none)
  let components ← snapshotComponents data
  if h : (components.map ComponentSnapshot.slug).Nodup then
    pure ⟨controllerId, state, message, observedGeneration, components, h⟩
  else throw (.error "Runtime controller returned duplicate runtime components." none)

/-- The check of the arguments of `RuntimeControllerClient.logs`. -/
def logRequest (component : String) (tail sinceSeconds : ℕ) : Except ControllerException Unit :=
  if isComponentSlug component && 1 ≤ tail && tail ≤ 1000 && 1 ≤ sinceSeconds &&
      sinceSeconds ≤ 604800 then .ok ()
  else .error (.error "Runtime log request is invalid." none)

/-- The lines of a log answer; `total` counts the characters read so far. -/
def logLines : ℕ → List Json → Except ControllerException (List String)
  | _, [] => .ok []
  | total, .str value :: rest =>
    let line := take 16384 (String.ofList (value.toList.filter (·.toNat ≠ 0)))
    if total + line.length > 1000000 then
      .error (.error "Runtime controller log response is too large." none)
    else (logLines (total + line.length) rest).map (line :: ·)
  | _, _ :: _ => .error (.error "Runtime controller returned an invalid log response." none)

/-- What `RuntimeControllerClient.logs` makes of an answer. -/
def logs (data : Json) (tail : ℕ) : Except ControllerException RuntimeLogs := do
  let lines ← match data.get? "lines" with
    | some (.arr xs) =>
      if xs.length > tail then
        throw (.error "Runtime controller returned an invalid log response." none)
      else logLines 0 xs
    | _ => throw (.error "Runtime controller returned an invalid log response." none)
  let cursor ← match (data.get? "cursor").getD (.str "") with
    | .str c =>
      if c.length > 500 then
        throw (.error "Runtime controller returned an invalid log cursor." none)
      else pure c
    | _ => throw (.error "Runtime controller returned an invalid log cursor." none)
  let truncated ← match (data.get? "truncated").getD (.bool false) with
    | .bool b => pure b
    | _ => throw (.error "Runtime controller returned an invalid log response." none)
  pure ⟨lines, cursor, truncated⟩

end ArchiDeal.Hosting

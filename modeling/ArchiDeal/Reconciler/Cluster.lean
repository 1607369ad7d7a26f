import ArchiDeal.Lib.Calls
import ArchiDeal.Lib.Table
import ArchiDeal.Lib.Json

/-!
# The cluster

The objects that the controller works on and the calls of its `KubernetesClient`
(`runtime_controller_service/kubernetes.py`). An object is known by namespace, kind and name; the
API server returns it with that name, so that the content does not repeat it.

The API server is not part of the repository. What the controller relies on is `ApiServer`: a
server-side apply with `force=true` sets every label, annotation and data entry that it carries. A
`DELETE` with foreground propagation marks the object as terminating, and the object vanishes some
time later; that, the status reports of other controllers and the deletions by status requests,
which do not hold the Lease, are the drift of the cluster.
-/

namespace ArchiDeal.Reconciler

open Calls

/-- The kinds of objects, `_RESOURCE_ENDPOINTS`; `Lease` is treated on its own. -/
inductive Kind
  | configMap
  | service
  | pod
  | deployment
  | horizontalPodAutoscaler
  deriving DecidableEq

/-- The identity of an object. -/
structure Key where
  namespaceName : String
  kind : Kind
  name : String
  deriving DecidableEq

/-- The content of an object. -/
structure Resource where
  labels : List (String × String)
  annotations : List (String × String) := []
  generation : Json := .null
  immutable : Option Bool := none
  data : List (String × String) := []
  spec : Json := .null
  status : Json := .null
  deriving DecidableEq

/-- An object in the cluster. -/
structure Entry where
  resource : Resource
  /-- `metadata.deletionTimestamp` is set. -/
  terminating : Bool := false
  deriving DecidableEq

/-- The objects of a cluster. -/
abbrev Cluster := Table Key Entry

/-- What the API server makes of an applied object, given the stored one. -/
structure ApiServer where
  applied : Option Resource → Resource → Resource
  labels_applied : ∀ old r k v, r.labels.lookup k = some v →
    (applied old r).labels.lookup k = some v
  annotations_applied : ∀ old r k v, r.annotations.lookup k = some v →
    (applied old r).annotations.lookup k = some v
  data_applied : ∀ old r k v, r.data.lookup k = some v → (applied old r).data.lookup k = some v

/-- The calls of the client. A selector is a list of labels with their values. -/
inductive Call
  | get (key : Key)
  | list (namespaceName : String) (kind : Kind) (selector : List (String × String))
  | apply (key : Key) (resource : Resource)
  | delete (key : Key)
  deriving DecidableEq

/-- The reply of a call; what `apply` returns is not used. -/
@[reducible] def Call.Reply : Call → Type
  | get _ => Option Resource
  | list _ _ _ => List (Key × Resource)
  | apply _ _ => Unit
  | delete _ => Unit

/-- What happens to the cluster without a call. -/
inductive Drift
  /-- A terminating object is gone. -/
  | vanish (key : Key)
  /-- A status request that runs at the same time deletes an object. -/
  | retire (key : Key)
  /-- Another controller writes the status of an object. -/
  | report (key : Key) (status generation : Json)

namespace Cluster

variable (api : ApiServer) (collectable : Resource → Bool) (s : Cluster)

/-- The content of an object. -/
def content (s : Cluster) (k : Key) : Option Resource := (s.lookup k).map (·.resource)

/-- `PATCH` with `application/apply-patch+yaml`. -/
def apply (k : Key) (r : Resource) : Cluster :=
  s.insert k ⟨api.applied (s.content k) r, (s.lookup k).any (·.terminating)⟩

/-- `DELETE` with `propagationPolicy=Foreground`. -/
def delete (k : Key) : Cluster :=
  match s.lookup k with
  | some e => s.insert k { e with terminating := true }
  | none => s

/-- The objects of a kind that carry the labels of a selector. -/
def select (namespaceName : String) (kind : Kind) (selector : List (String × String)) :
    List (Key × Resource) :=
  s.entries.filterMap fun e =>
    if e.1.namespaceName = namespaceName ∧ e.1.kind = kind ∧
        selector.all fun p => e.2.resource.labels.lookup p.1 == some p.2 then
      some (e.1, e.2.resource)
    else none

/-- The cluster after a drift; only a terminating object that may be collected vanishes. -/
def drift : Drift → Cluster
  | .vanish k =>
    match s.lookup k with
    | some e => if e.terminating && collectable e.resource then s.erase k else s
    | none => s
  | .retire k => s.delete k
  | .report k status generation =>
    match s.lookup k with
    | some e =>
      s.insert k { e with resource :=
        { e.resource with status := status, generation := generation } }
    | none => s

end Cluster

/-- The reply to a call. -/
def reply : (c : Call) → Cluster → c.Reply
  | .get k, s => s.content k
  | .list namespaceName kind selector, s => s.select namespaceName kind selector
  | .apply _ _, _ => ()
  | .delete _, _ => ()

/-- The effect of a call. -/
def effect (api : ApiServer) : Call → Cluster → Cluster
  | .get _, s => s
  | .list _ _ _, s => s
  | .apply k r, s => s.apply api k r
  | .delete k, s => s.delete k

/-- The API server of a cluster in which the terminating objects with `collectable` vanish. -/
def cluster (api : ApiServer) (collectable : Resource → Bool) :
    Server Cluster Call Call.Reply Drift where
  reply := reply
  effect := effect api
  drift d s := s.drift collectable d

/-! ### What one call or drift does to one object -/

section Lookup

variable {api : ApiServer} {collectable : Resource → Bool} {s : Cluster} {k k' : Key} {r : Resource}

theorem lookup_apply : (s.apply api k r).lookup k' = if k' = k then
    some ⟨api.applied (s.content k) r, (s.lookup k).any (·.terminating)⟩ else s.lookup k' :=
  Table.lookup_insert_eq k k' _

theorem lookup_delete : (s.delete k).lookup k' =
    if k' = k then (s.lookup k).map fun e => { e with terminating := true } else s.lookup k' := by
  unfold Cluster.delete
  split
  · rename_i e he
    rw [Table.lookup_insert_eq, he]
    rfl
  · rename_i he
    split_ifs with h
    · rw [h, he]
      rfl
    · rfl

theorem content_apply : (s.apply api k r).content k' =
    if k' = k then some (api.applied (s.content k) r) else s.content k' := by
  unfold Cluster.content
  rw [lookup_apply]
  split_ifs <;> rfl

@[simp] theorem content_delete : (s.delete k).content k' = s.content k' := by
  unfold Cluster.content
  rw [lookup_delete]
  split_ifs with h
  · rw [h, Option.map_map]
    rfl
  · rfl

theorem lookup_vanish : (s.drift collectable (.vanish k)).lookup k' =
    if k' = k ∧ (s.lookup k).any (fun e => e.terminating && collectable e.resource) then none
    else s.lookup k' := by
  simp only [Cluster.drift]
  split
  · rename_i e he
    simp only [he, Option.any_some]
    split_ifs with hgone h h
    · rw [h.1, AList.lookup_erase]
    · exact AList.lookup_erase_ne (fun hk => h ⟨hk, hgone⟩)
    · exact absurd h.2 hgone
    · rfl
  · rename_i he
    rw [if_neg]
    simp [he]

theorem lookup_report {status generation : Json} :
    (s.drift collectable (.report k status generation)).lookup k' =
      if k' = k then (s.lookup k).map fun e =>
        { e with resource := { e.resource with status := status, generation := generation } }
      else s.lookup k' := by
  simp only [Cluster.drift]
  split
  · rename_i e he
    rw [Table.lookup_insert_eq, he]
    rfl
  · rename_i he
    split_ifs with h
    · rw [h, he]
      rfl
    · rfl

end Lookup

end ArchiDeal.Reconciler

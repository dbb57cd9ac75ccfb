import SsP2p.Kademlia.TableInvariant

/-!
# The routing table by endpoints

`direct_routing_table_controller` turns endpoints into nodes and asks the
routing table.
-/

namespace SsP2p.Kademlia

namespace KRoutingTable

variable (platform : Platform)

def collectEndpoint (table : KRoutingTable) (rootEp : Endpoint) (maxCount : ℕ)
    (ignoreEps : List Endpoint) : List Endpoint :=
  (table.collectNode (KNode.ofEndpoint platform rootEp) maxCount
    (ignoreEps.map (KNode.ofEndpoint platform))).map KNode.ep

def isExistEndpoint (table : KRoutingTable) (ep : Endpoint) : Bool :=
  table.isExist (KNode.ofEndpoint platform ep)

def autoUpdateEndpoint (table : KRoutingTable) (ep : Endpoint) : KRoutingTable :=
  (table.autoUpdate (KNode.ofEndpoint platform ep)).2

def autoUpdateBatch (table : KRoutingTable) (eps : List Endpoint) :
    KRoutingTable :=
  eps.foldl (autoUpdateEndpoint platform) table

def Knows (table : KRoutingTable) (ep : Endpoint) : Prop :=
  ∃ index, ∃ kn ∈ (table.bucketAt index).nodes, kn.ep = ep

/-- The nodes of the table were built from their endpoints. -/
def OfEndpoints (table : KRoutingTable) : Prop :=
  ∀ index, ∀ kn ∈ (table.bucketAt index).nodes, kn = KNode.ofEndpoint platform kn.ep

variable {platform} in
/-- The collected endpoints are known and, where nodes are built from endpoints, they
are none of the ignored ones. -/
theorem mem_collectEndpoint {table : KRoutingTable} {rootEp : Endpoint} {maxCount : ℕ}
    {ignoreEps : List Endpoint} {ep : Endpoint}
    (hep : ep ∈ table.collectEndpoint platform rootEp maxCount ignoreEps) :
    table.Knows ep ∧ (table.OfEndpoints platform → ep ∉ ignoreEps) := by
  obtain ⟨kn, hkn, rfl⟩ := List.mem_map.mp hep
  obtain ⟨⟨index, hstored⟩, hignored⟩ := offers_of_mem_collectNode hkn
  refine ⟨⟨index, kn, hstored, rfl⟩, fun hnodes hmem => ?_⟩
  have hnode := hnodes index kn hstored
  apply hignored (KNode.ofEndpoint platform kn.ep) (List.mem_map_of_mem hmem)
  rw [← hnode]

theorem not_knows_empty (selfId : NodeId) (ep : Endpoint) : ¬ (empty selfId).Knows ep := by
  rintro ⟨index, kn, hkn, -⟩
  rw [bucketAt_empty] at hkn
  cases hkn

theorem knows_step {table : KRoutingTable} {event : Event} {ep : Endpoint}
    (hknows : (table.step event).Knows ep) :
    table.Knows ep ∨ ep = event.node.ep := by
  obtain ⟨index, kn, hkn, rfl⟩ := hknows
  cases mem_step hkn with
  | inl hold => exact Or.inl ⟨index, kn, hold, rfl⟩
  | inr hnew => exact Or.inr (congrArg KNode.ep hnew)

/-- A bucket that only loses nodes adds no endpoint. -/
theorem knows_setBucket {table : KRoutingTable} {index : Fin kBucketCount}
    {bucket : KBucket} (hbucket : bucket.nodes ⊆ (table.bucketAt index).nodes)
    {ep : Endpoint} (hknows : (table.setBucket index bucket).Knows ep) :
    table.Knows ep := by
  obtain ⟨other, kn, hkn, rfl⟩ := hknows
  by_cases hother : other = index
  · subst hother
    rw [bucketAt_setBucket_self] at hkn
    exact ⟨other, kn, hbucket hkn, rfl⟩
  · rw [bucketAt_setBucket_of_ne table hother] at hkn
    exact ⟨other, kn, hkn, rfl⟩

theorem ofEndpoints_step {table : KRoutingTable} {event : Event}
    (hnodes : table.OfEndpoints platform)
    (hnode : event.node = KNode.ofEndpoint platform event.node.ep) :
    (table.step event).OfEndpoints platform := by
  intro index kn hkn
  cases mem_step hkn with
  | inl hold => exact hnodes index kn hold
  | inr hnew =>
      rw [hnew]
      exact hnode

theorem autoUpdateEndpoint_eq_step (table : KRoutingTable) (ep : Endpoint) :
    table.autoUpdateEndpoint platform ep =
      table.step (.autoUpdate (KNode.ofEndpoint platform ep)) := rfl

variable {platform} in
theorem knows_autoUpdateBatch {table : KRoutingTable} {eps : List Endpoint}
    {ep : Endpoint} (hknows : (table.autoUpdateBatch platform eps).Knows ep) :
    table.Knows ep ∨ ep ∈ eps := by
  induction eps generalizing table with
  | nil => exact Or.inl hknows
  | cons first eps ih =>
      cases ih hknows with
      | inl hold =>
          rw [autoUpdateEndpoint_eq_step] at hold
          exact (knows_step hold).imp_right fun heq => List.mem_cons.mpr (Or.inl heq)
      | inr hrest => exact Or.inr (List.mem_cons_of_mem first hrest)

theorem ofEndpoints_empty (selfId : NodeId) : (empty selfId).OfEndpoints platform := by
  intro index kn hkn
  rw [bucketAt_empty] at hkn
  cases hkn

theorem ofEndpoints_autoUpdateBatch {table : KRoutingTable}
    (hnodes : table.OfEndpoints platform) (eps : List Endpoint) :
    (table.autoUpdateBatch platform eps).OfEndpoints platform := by
  induction eps generalizing table with
  | nil => exact hnodes
  | cons ep eps ih =>
      apply ih
      rw [autoUpdateEndpoint_eq_step]
      exact ofEndpoints_step platform hnodes rfl

@[simp]
theorem selfId_autoUpdateEndpoint (table : KRoutingTable) (ep : Endpoint) :
    (table.autoUpdateEndpoint platform ep).selfId = table.selfId := rfl

theorem placed_autoUpdateEndpoint {table : KRoutingTable}
    (hplaced : table.Placed) (ep : Endpoint) :
    (table.autoUpdateEndpoint platform ep).Placed :=
  placed_step hplaced (.autoUpdate (KNode.ofEndpoint platform ep))

end KRoutingTable

end SsP2p.Kademlia

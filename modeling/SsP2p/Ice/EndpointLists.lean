import SsP2p.Core.DualStack
import SsP2p.Ice.RelayChain
import SsP2p.Kademlia.FindNodeExchange

/-!
# Lists of endpoints in messages

`ignore_eps` and `finded_eps` of a `find_node` message and `relay_eps` of a signaling
message carry endpoints as texts.  A list is read back if and only if all of its endpoints
are IPv4 endpoints: the writer takes both families, the reader cuts at the first colon.
-/

namespace SsP2p.Ice

open Kademlia SignalingServer

variable {platform : Platform}

/-- What `set_ignore_endpoint` writes is read back, and nothing raises. -/
def IgnoreSurvives (platform : Platform) (eps : List Endpoint) : Prop :=
  ∀ fields, ∃ kMsg, KMessage.setIgnoreEndpoint platform ⟨.object fields⟩ eps = .ok kMsg ∧
    kMsg.getIgnoreEndpoint platform = .ok eps

/-- What `set_finded_endpoint` writes is read back, and nothing raises. -/
def FindedSurvives (platform : Platform) (eps : List Endpoint) : Prop :=
  ∀ fields, ∃ kMsg, KMessage.setFindedEndpoint platform ⟨.object fields⟩ eps = .ok kMsg ∧
    kMsg.getFindedEndpoint platform = .ok eps

/-- What a sequence of `add_relay_endpoint` on an empty list writes is read back, and nothing
raises. -/
def RelaySurvives (platform : Platform) (eps : List Endpoint) : Prop :=
  ∀ iceMsg : IceMessage, iceMsg.get "relay_eps" = .array [] → ∃ added,
    addRelayEndpoints platform iceMsg eps = .ok added ∧
      added.getRelayEndpoints platform = .ok eps

/-- What is set under a key of an object is what is read there, if its texts are. -/
theorem getEndpoints_setEndpoints (platform : Platform) (fields : List (String × Json))
    (key : String) (eps : List Endpoint) :
    ∃ kMsg, KMessage.setEndpoints platform ⟨.object fields⟩ key eps = .ok kMsg ∧
      kMsg.getEndpoints platform key =
        (eps.map (endpointToStr platform)).mapM (strToEndpoint platform) := by
  refine ⟨⟨.object (assignField key (endpointTexts platform eps) fields)⟩, rfl, ?_⟩
  have hread : (Json.object (assignField key (endpointTexts platform eps) fields)).subscript
      key = .ok (endpointTexts platform eps) := by
    rw [Json.subscript, lookupField_assignField_self]
    rfl
  rw [KMessage.getEndpoints, hread, Fallible.ok_bind, getStrings_endpointTexts,
    Fallible.ok_bind]

/-- Endpoints are added one behind the other. -/
theorem get_addRelayEndpoints (platform : Platform) {iceMsg : IceMessage} {items : List Json}
    (hitems : iceMsg.get "relay_eps" = .array items) (eps : List Endpoint) :
    ∃ added, addRelayEndpoints platform iceMsg eps = .ok added ∧
      added.get "relay_eps" = .array (items ++ eps.map (relayEntry platform)) := by
  induction eps generalizing iceMsg items with
  | nil => exact ⟨iceMsg, rfl, by simpa using hitems⟩
  | cons ep eps ih =>
      have hadd : iceMsg.addRelayEndpoint platform ep =
          .ok (iceMsg.set "relay_eps" (.array (items ++ [relayEntry platform ep]))) :=
        IceMessage.addRelayEndpoint_eq_ok_iff.mpr ⟨items, Or.inl hitems, rfl⟩
      obtain ⟨added, hmore, hadded⟩ := ih (IceMessage.get_set_self iceMsg "relay_eps"
        (.array (items ++ [relayEntry platform ep])))
      refine ⟨added, ?_, ?_⟩
      · rw [addRelayEndpoints, List.foldlM_cons, hadd]
        exact hmore
      · simpa using hadded

theorem getRelayEndpoints_addRelayEndpoints (platform : Platform) {iceMsg : IceMessage}
    (hempty : iceMsg.get "relay_eps" = .array []) (eps : List Endpoint) :
    ∃ added, addRelayEndpoints platform iceMsg eps = .ok added ∧
      added.getRelayEndpoints platform =
        (eps.map (relayEntry platform)).mapM (readRelayEntry platform) := by
  obtain ⟨added, hadd, hitems⟩ := get_addRelayEndpoints platform hempty eps
  exact ⟨added, hadd, getRelayEndpoints_of_items (Or.inl hitems)⟩

/-- The texts of a list of endpoints are read back if these are IPv4 endpoints. -/
theorem mapM_endpointToStr_iff (hreads : platform.ReadsAddresses) (eps : List Endpoint) :
    (eps.map (endpointToStr platform)).mapM (strToEndpoint platform) = .ok eps ↔
      ∀ ep ∈ eps, ep.IsV4 := by
  simp only [Fallible.mapM_map_eq_ok_iff, strToEndpoint_endpointToStr_iff hreads]

theorem mapM_relayEntry_iff (hreads : platform.ReadsAddresses) (eps : List Endpoint) :
    (eps.map (relayEntry platform)).mapM (readRelayEntry platform) = .ok eps ↔
      ∀ ep ∈ eps, ep.IsV4 := by
  simp only [Fallible.mapM_map_eq_ok_iff, ← strToEndpoint_endpointToStr_iff hreads]
  rfl

/-- A list that is set under a key of any object is read back if it is one of IPv4
endpoints. -/
theorem setEndpoints_survives_iff (hreads : platform.ReadsAddresses) (key : String)
    (eps : List Endpoint) :
    (∀ fields, ∃ kMsg, KMessage.setEndpoints platform ⟨.object fields⟩ key eps = .ok kMsg ∧
      kMsg.getEndpoints platform key = .ok eps) ↔ ∀ ep ∈ eps, ep.IsV4 := by
  rw [← mapM_endpointToStr_iff hreads]
  constructor
  · intro hsurvives
    obtain ⟨kMsg, hset, hget⟩ := hsurvives []
    obtain ⟨written, hwritten, hread⟩ := getEndpoints_setEndpoints platform [] key eps
    obtain rfl := Except.ok.inj (hset.symm.trans hwritten)
    exact hread.symm.trans hget
  · intro htexts fields
    obtain ⟨written, hwritten, hread⟩ := getEndpoints_setEndpoints platform fields key eps
    exact ⟨written, hwritten, hread.trans htexts⟩

theorem relaySurvives_iff (hreads : platform.ReadsAddresses) (eps : List Endpoint) :
    RelaySurvives platform eps ↔ ∀ ep ∈ eps, ep.IsV4 := by
  rw [← mapM_relayEntry_iff hreads]
  constructor
  · intro hsurvives
    have hempty := IceMessage.get_set_self ⟨[]⟩ "relay_eps" (.array [])
    obtain ⟨added, hadd, hget⟩ := hsurvives _ hempty
    obtain ⟨written, hwritten, hread⟩ :=
      getRelayEndpoints_addRelayEndpoints platform hempty eps
    obtain rfl := Except.ok.inj (hadd.symm.trans hwritten)
    exact hread.symm.trans hget
  · intro hentries iceMsg hempty
    obtain ⟨written, hwritten, hread⟩ :=
      getRelayEndpoints_addRelayEndpoints platform hempty eps
    exact ⟨written, hwritten, hread.trans hentries⟩

/-- In each of the three fields, the lists that survive are the lists of IPv4 endpoints. -/
theorem listsSurvive_iff (hreads : platform.ReadsAddresses) (eps : List Endpoint) :
    (IgnoreSurvives platform eps ↔ ∀ ep ∈ eps, ep.IsV4) ∧
      (FindedSurvives platform eps ↔ ∀ ep ∈ eps, ep.IsV4) ∧
      (RelaySurvives platform eps ↔ ∀ ep ∈ eps, ep.IsV4) :=
  ⟨setEndpoints_survives_iff hreads "ignore_eps" eps,
    setEndpoints_survives_iff hreads "finded_eps" eps, relaySurvives_iff hreads eps⟩

/-- The list of the nodes `10.0.0.1:8100` and `10.0.0.2:8100`. -/
theorem listsSurvive_nodes :
    IgnoreSurvives (dualStackPlatform []) [nodeAt 1, nodeAt 2] ∧
      FindedSurvives (dualStackPlatform []) [nodeAt 1, nodeAt 2] ∧
      RelaySurvives (dualStackPlatform []) [nodeAt 1, nodeAt 2] := by
  have hv4 : ∀ ep ∈ [nodeAt 1, nodeAt 2], ep.IsV4 := by
    simp only [List.forall_mem_cons, List.not_mem_nil, false_implies, implies_true, and_true]
    exact ⟨⟨_, rfl⟩, ⟨_, rfl⟩⟩
  obtain ⟨hignore, hfinded, hrelay⟩ :=
    listsSurvive_iff (readsAddresses_dualStackPlatform []) [nodeAt 1, nodeAt 2]
  exact ⟨hignore.mpr hv4, hfinded.mpr hv4, hrelay.mpr hv4⟩

/-- The endpoint `[2001:1db8:1111:2222:3333:4444:5555:6666]:8100`. -/
def v6Node : Endpoint := ⟨.v6 0x20011db8111122223333444455556666#128 0, 8100⟩

theorem not_isV4_v6Node : ¬ ∀ ep ∈ [v6Node], ep.IsV4 := by
  intro hv4
  obtain ⟨octets, haddress⟩ := hv4 v6Node (List.mem_singleton_self _)
  cases haddress

/-- The text of an IPv6 endpoint is cut behind `2001`, which is no address. -/
theorem not_listsSurvive_v6Node :
    endpointToStr (dualStackPlatform []) v6Node =
        "2001:1db8:1111:2222:3333:4444:5555:6666:8100" ∧
      strToEndpoint (dualStackPlatform []) (endpointToStr (dualStackPlatform []) v6Node) =
        .error .badAddress ∧
      ¬ IgnoreSurvives (dualStackPlatform []) [v6Node] ∧
      ¬ FindedSurvives (dualStackPlatform []) [v6Node] ∧
      ¬ RelaySurvives (dualStackPlatform []) [v6Node] := by
  have hreads := readsAddresses_dualStackPlatform []
  refine ⟨by decide, rfl, fun hsurvives => not_isV4_v6Node ?_,
    fun hsurvives => not_isV4_v6Node ?_, fun hsurvives => not_isV4_v6Node ?_⟩
  · exact (setEndpoints_survives_iff hreads "ignore_eps" [v6Node]).mp hsurvives
  · exact (setEndpoints_survives_iff hreads "finded_eps" [v6Node]).mp hsurvives
  · exact (relaySurvives_iff hreads [v6Node]).mp hsurvives

end SsP2p.Ice

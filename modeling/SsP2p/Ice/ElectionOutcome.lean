import SsP2p.Core.HostPlatform
import SsP2p.Ice.StunServer
import Mathlib.Data.Finset.Card
import Mathlib.Data.Finset.Dedup

/-!
# When the election decides

`global_ep_consensus` returns before it looks at the replies when fewer than two
fifths of the requests have one.  This return comes before the two paths part, so
that the forced election and the timeout may leave replies undecided.  The requests
are counted with their repetitions, while a reply is stored for the first request to
its node only, so that repeated targets may leave even a full participation
undecided.
-/

namespace SsP2p.Ice

open Kademlia

namespace Responses

/-! ## The two thresholds -/

def repliedCount (responses : Responses) : ℕ :=
  responses.countP fun entry => entry.2.isSome

/-- Two fifths of the requests have a reply, in a 16-bit count. -/
def Quorum (responses : Responses) : Prop :=
  2 * responses.length ≤ 5 * (responses.repliedCount % 2 ^ 16)

/-- A third of the replies, in a 16-bit count, and at least one is no loopback
address. -/
def EnoughValid (responses : Responses) : Prop :=
  max (responses.repliedCount % 2 ^ 16 / 3) 1 ≤ responses.validGlobalEps.length

instance (responses : Responses) : Decidable responses.Quorum :=
  inferInstanceAs (Decidable (_ ≤ _))

instance (responses : Responses) : Decidable responses.EnoughValid :=
  inferInstanceAs (Decidable (_ ≤ _))

theorem toNat_responseCount (responses : Responses) :
    responses.responseCount.toNat = responses.repliedCount % 2 ^ 16 := by
  rw [responseCount, UInt16.toNat_ofNat', repliedCount]

theorem quorum_iff {responses : Responses} :
    responses.Quorum ↔ 2 * responses.length ≤ 5 * responses.responseCount.toNat := by
  rw [Quorum, toNat_responseCount]

theorem enoughValid_iff {responses : Responses} :
    responses.EnoughValid ↔
      max (responses.responseCount.toNat / 3) 1 ≤ responses.validGlobalEps.length := by
  rw [EnoughValid, toNat_responseCount]

/-- The unforced election decides when both thresholds are met. -/
theorem consensus_false_eq (sort : CounterSort) (responses : Responses) :
    responses.globalEpConsensus sort false =
      if responses.Quorum ∧ responses.EnoughValid then
        (Plurality.elect sort responses.validGlobalEps).map fun ep => ⟨.done, some ep⟩
      else some ⟨.onHandling, none⟩ := by
  rw [globalEpConsensus_false]
  by_cases hmet : responses.Quorum ∧ responses.EnoughValid
  · rw [if_pos hmet, if_pos ⟨quorum_iff.mp hmet.1, enoughValid_iff.mp hmet.2⟩]
  · rw [if_neg hmet,
      if_neg fun hboth => hmet ⟨quorum_iff.mpr hboth.1, enoughValid_iff.mpr hboth.2⟩]

/-- The forced election shares the first threshold. -/
theorem consensus_true_eq (sort : CounterSort) (responses : Responses) :
    responses.globalEpConsensus sort true =
      if responses.Quorum then
        if responses.validGlobalEps = [] then some ⟨.errorDone, none⟩
        else (Plurality.elect sort responses.validGlobalEps).map fun ep => ⟨.done, some ep⟩
      else some ⟨.onHandling, none⟩ := by
  simp only [globalEpConsensus, threshold_iff, Bool.not_true, Bool.false_and,
    Bool.true_and, Bool.false_eq_true, if_false, List.isEmpty_iff]
  by_cases hquorum : responses.Quorum
  · rw [if_pos hquorum, if_neg (Nat.not_lt_of_le (quorum_iff.mp hquorum))]
  · rw [if_neg hquorum, if_pos (Nat.lt_of_not_le fun hle => hquorum (quorum_iff.mpr hle))]

theorem enoughValid_ne_nil {responses : Responses} (henough : responses.EnoughValid) :
    responses.validGlobalEps ≠ [] := by
  rintro hempty
  rw [EnoughValid, hempty] at henough
  exact absurd (le_trans (le_max_right _ 1) henough) (by decide)

/-! ## The winner -/

/-- A reply that is no loopback address, and that no other outvotes. -/
def MostVoted (responses : Responses) (ep : Endpoint) : Prop :=
  ep ∈ responses.validGlobalEps ∧
    ∀ other, responses.validGlobalEps.count other ≤ responses.validGlobalEps.count ep

/-- A reply with a largest 16-bit counter. -/
def LargestCounter (responses : Responses) (ep : Endpoint) : Prop :=
  ep ∈ responses.validGlobalEps ∧
    ∀ other ∈ responses.validGlobalEps,
      responses.validGlobalEps.count other % 2 ^ 16 ≤
        responses.validGlobalEps.count ep % 2 ^ 16

/-- No counter has wrapped around in favour of an outvoted reply. -/
def CountersKeepOrder (responses : Responses) : Prop :=
  ∀ ep, responses.LargestCounter ep → responses.MostVoted ep

theorem countersKeepOrder_of_few {responses : Responses}
    (hfew : responses.validGlobalEps.length < 2 ^ 16) : responses.CountersKeepOrder := by
  have hexact : ∀ ep, responses.validGlobalEps.count ep % 2 ^ 16 =
      responses.validGlobalEps.count ep := fun ep =>
    Nat.mod_eq_of_lt (Nat.lt_of_le_of_lt List.count_le_length hfew)
  intro ep hlargest
  refine ⟨hlargest.1, fun other => ?_⟩
  by_cases hother : other ∈ responses.validGlobalEps
  · have hle := hlargest.2 other hother
    rwa [hexact, hexact] at hle
  · rw [List.count_eq_zero_of_not_mem hother]
    exact Nat.zero_le _

theorem largestCounter_iff {responses : Responses} {ep : Endpoint} :
    responses.LargestCounter ep ↔
      ep ∈ responses.validGlobalEps ∧ ∀ other ∈ responses.validGlobalEps,
        UInt16.ofNat (responses.validGlobalEps.count other) ≤
          UInt16.ofNat (responses.validGlobalEps.count ep) := by
  simp only [LargestCounter, UInt16.le_iff_toNat_le, UInt16.toNat_ofNat']

/-- The endpoints that `std::sort` may put in front. -/
theorem exists_sort_elect_iff {responses : Responses} {ep : Endpoint} :
    (∃ sort : CounterSort, Plurality.elect sort responses.validGlobalEps = some ep) ↔
      responses.LargestCounter ep := by
  constructor
  · rintro ⟨sort, helect⟩
    exact largestCounter_iff.mpr (Plurality.elect_counter sort helect)
  · intro hlargest
    obtain ⟨hmem, hmost⟩ := largestCounter_iff.mp hlargest
    exact ⟨Plurality.favouring ep, Plurality.elect_favouring hmem hmost⟩

/-- Somebody is elected, whatever the sort does with equal counters. -/
theorem exists_elect {responses : Responses} (hsome : responses.validGlobalEps ≠ [])
    (sort : CounterSort) :
    ∃ ep, Plurality.elect sort responses.validGlobalEps = some ep :=
  Option.ne_none_iff_exists'.mp ((Plurality.elect_eq_none_iff sort).not.mpr hsome)

/-- The winner is a most voted reply under every sort exactly when the counters keep
the order of the votes. -/
theorem elect_mostVoted_iff {responses : Responses} :
    (∀ (sort : CounterSort) (ep : Endpoint),
      Plurality.elect sort responses.validGlobalEps = some ep → responses.MostVoted ep) ↔
      responses.CountersKeepOrder := by
  constructor
  · intro hevery ep hlargest
    obtain ⟨sort, helect⟩ := exists_sort_elect_iff.mpr hlargest
    exact hevery sort ep helect
  · intro hkeep sort ep helect
    exact hkeep ep (exists_sort_elect_iff.mp ⟨sort, helect⟩)

/-! ## The forced election -/

/-- The forced election elects a most voted reply, or reports that there is none. -/
def ForcedDecides (sort : CounterSort) (responses : Responses) : Prop :=
  if responses.validGlobalEps = [] then
    responses.globalEpConsensus sort true = some ⟨.errorDone, none⟩
  else
    ∃ ep, responses.MostVoted ep ∧
      responses.globalEpConsensus sort true = some ⟨.done, some ep⟩

/-- Below the quorum the forced election is still on handling. -/
theorem quorum_of_forcedDecides {sort : CounterSort} {responses : Responses}
    (hdecides : responses.ForcedDecides sort) : responses.Quorum := by
  by_contra hfew
  rw [ForcedDecides, consensus_true_eq, if_neg hfew] at hdecides
  split_ifs at hdecides
  · simp at hdecides
  · obtain ⟨ep, -, hctx⟩ := hdecides
    simp at hctx

theorem forcedDecides_of_empty {responses : Responses} (hquorum : responses.Quorum)
    (hempty : responses.validGlobalEps = []) (sort : CounterSort) :
    responses.ForcedDecides sort := by
  rw [ForcedDecides, if_pos hempty, consensus_true_eq, if_pos hquorum, if_pos hempty]

theorem forcedDecides_iff_of_some {sort : CounterSort} {responses : Responses}
    (hsome : responses.validGlobalEps ≠ []) :
    responses.ForcedDecides sort ↔ responses.Quorum ∧
      ∀ ep, Plurality.elect sort responses.validGlobalEps = some ep →
        responses.MostVoted ep := by
  constructor
  · intro hdecides
    have hquorum := quorum_of_forcedDecides hdecides
    refine ⟨hquorum, fun ep helect => ?_⟩
    rw [ForcedDecides, if_neg hsome, consensus_true_eq, if_pos hquorum, if_neg hsome,
      helect] at hdecides
    obtain ⟨winner, hmost, hctx⟩ := hdecides
    obtain rfl : ep = winner := by simpa using hctx
    exact hmost
  · rintro ⟨hquorum, hmost⟩
    obtain ⟨ep, helect⟩ := exists_elect hsome sort
    rw [ForcedDecides, if_neg hsome, consensus_true_eq, if_pos hquorum, if_neg hsome, helect]
    exact ⟨ep, hmost ep helect, rfl⟩

end Responses

namespace BindingRequest

/-! ## The timeout -/

variable (platform : Platform) (obs : BindingRequest)

/-- Without force the elected endpoint is that of the vote, if both thresholds are met. -/
theorem ep_consensus_eq :
    (obs.consensus platform false).ep =
      if obs.responses.Quorum ∧ obs.responses.EnoughValid then
        Plurality.elect platform.counterSort obs.responses.validGlobalEps
      else none := by
  have hconsensus := obs.some_consensus platform false
  rw [Responses.consensus_false_eq] at hconsensus
  split_ifs at hconsensus ⊢ with hmet
  · obtain ⟨ep, helect⟩ := Responses.exists_elect
      (Responses.enoughValid_ne_nil hmet.2) platform.counterSort
    rw [helect, Option.map_some, Option.some_inj] at hconsensus
    rw [hconsensus, helect]
  · rw [Option.some_inj] at hconsensus
    rw [hconsensus]

/-- Somebody is elected when both thresholds are met. -/
theorem ep_consensus_ne_none_iff :
    (obs.consensus platform false).ep ≠ none ↔
      obs.responses.Quorum ∧ obs.responses.EnoughValid := by
  rw [ep_consensus_eq]
  split_ifs with hmet
  · obtain ⟨ep, helect⟩ := Responses.exists_elect
      (Responses.enoughValid_ne_nil hmet.2) platform.counterSort
    simp [helect, hmet]
  · simp [hmet]

theorem state_consensus_eq_done_iff :
    (obs.consensus platform false).state = .done ↔
      obs.responses.Quorum ∧ obs.responses.EnoughValid := by
  rw [← ep_consensus_ne_none_iff platform]
  cases hep : (obs.consensus platform false).ep with
  | none => simp [(updateSr_of_none hep).1]
  | some ep => simp [(updateSr_of_some hep).1]

/-- After the timeout the `sr_object` has a most voted reply, or reports that there is
none. -/
def TimeoutDecides (platform : Platform) (obs : BindingRequest) : Prop :=
  if obs.responses.validGlobalEps = [] then (obs.timedOut platform).sr.state = .notfound
  else
    (obs.timedOut platform).sr.state = .done ∧
      obs.responses.MostVoted (obs.timedOut platform).sr.globalEp

variable {platform obs}

/-- Below one of the thresholds the `sr_object` reports that nothing was found. -/
theorem state_timedOut_of_not
    (hnot : ¬ (obs.responses.Quorum ∧ obs.responses.EnoughValid)) :
    (obs.timedOut platform).sr.state = .notfound := by
  have hnone : (obs.consensus platform false).ep = none := by
    rw [ep_consensus_eq, if_neg hnot]
  exact (updateSr_of_none hnone).2

theorem timeoutDecides_of_empty (hempty : obs.responses.validGlobalEps = []) :
    obs.TimeoutDecides platform := by
  rw [TimeoutDecides, if_pos hempty]
  exact state_timedOut_of_not fun hmet => Responses.enoughValid_ne_nil hmet.2 hempty

theorem timeoutDecides_iff_of_some (hsome : obs.responses.validGlobalEps ≠ []) :
    obs.TimeoutDecides platform ↔
      (obs.responses.Quorum ∧ obs.responses.EnoughValid) ∧
        ∀ ep, Plurality.elect platform.counterSort obs.responses.validGlobalEps = some ep →
          obs.responses.MostVoted ep := by
  rw [TimeoutDecides, if_neg hsome]
  by_cases hmet : obs.responses.Quorum ∧ obs.responses.EnoughValid
  · obtain ⟨ep, helect⟩ := Responses.exists_elect hsome platform.counterSort
    have hwinner : (obs.consensus platform false).ep = some ep := by
      rw [ep_consensus_eq, if_pos hmet, helect]
    obtain ⟨-, hstate, hep⟩ := updateSr_of_some hwinner
    rw [timedOut, hstate, hep, helect]
    simp [hmet]
  · rw [state_timedOut_of_not hmet]
    simp [hmet]

/-- The forced election and the timeout both decide, whatever the sort does with equal
counters, exactly when two fifths of the requests have a reply and, where one of the
replies is no loopback address, a third of them is none and no counter has wrapped
around in favour of an outvoted one. -/
theorem always_decides_iff (platform : Platform) (obs : BindingRequest) :
    (∀ sort : CounterSort, obs.responses.ForcedDecides sort ∧
        obs.TimeoutDecides { platform with counterSort := sort }) ↔
      obs.responses.Quorum ∧ (obs.responses.validGlobalEps ≠ [] →
        obs.responses.EnoughValid ∧ obs.responses.CountersKeepOrder) := by
  by_cases hempty : obs.responses.validGlobalEps = []
  · constructor
    · intro hevery
      exact ⟨Responses.quorum_of_forcedDecides (hevery platform.counterSort).1,
        fun hsome => absurd hempty hsome⟩
    · rintro ⟨hquorum, -⟩ sort
      exact ⟨Responses.forcedDecides_of_empty hquorum hempty sort,
        timeoutDecides_of_empty hempty⟩
  · rw [← Responses.elect_mostVoted_iff]
    constructor
    · intro hevery
      have hmet := ((timeoutDecides_iff_of_some hempty).mp
        (hevery platform.counterSort).2).1
      refine ⟨hmet.1, fun _ => ⟨hmet.2, fun sort => ?_⟩⟩
      exact ((Responses.forcedDecides_iff_of_some hempty).mp (hevery sort).1).2
    · rintro ⟨hquorum, hrest⟩ sort
      obtain ⟨henough, hmost⟩ := hrest hempty
      exact ⟨(Responses.forcedDecides_iff_of_some hempty).mpr ⟨hquorum, hmost sort⟩,
        (timeoutDecides_iff_of_some hempty).mpr ⟨⟨hquorum, henough⟩, hmost sort⟩⟩

def oneOfThree : BindingRequest :=
  (([nodeAt 2, nodeAt 3, nodeAt 4].foldl (fun obs ep => obs.addRequestedEp ep)
    (make 7 0)).answered (hostPlatform []) (nodeAt 2) (nodeAt 1))

/-- Neither the forced election nor the timeout decides on its reply. -/
theorem oneOfThree_undecided :
    ¬ oneOfThree.responses.ForcedDecides (hostPlatform []).counterSort ∧
      ¬ oneOfThree.TimeoutDecides (hostPlatform []) := by
  have hfew : ¬ oneOfThree.responses.Quorum := by decide +kernel
  have hsome : oneOfThree.responses.validGlobalEps ≠ [] := by decide +kernel
  constructor
  · exact fun hdecides => hfew (Responses.quorum_of_forcedDecides hdecides)
  · exact fun hdecides => hfew ((timeoutDecides_iff_of_some hsome).mp hdecides).1.1

end BindingRequest

/-! ## Repeated requests -/

namespace Responses

/-- The credited requests are as many as the nodes that were asked and not seen. -/
theorem countP_credited (p : Endpoint → Bool) {reply : Endpoint → Option Endpoint}
    {eps : List Endpoint} (hall : ∀ ep ∈ eps, (reply ep).any p = true)
    (seen : List Endpoint) :
    (credited reply seen eps).countP (fun entry => entry.2.any p) =
      (eps.toFinset \ seen.toFinset).card := by
  induction eps generalizing seen with
  | nil => simp [credited]
  | cons ep eps ih =>
      have hrest := ih (fun other hother => hall other (List.mem_cons_of_mem ep hother))
        (ep :: seen)
      rw [List.toFinset_cons] at hrest
      rw [credited, List.countP_cons, hrest, List.toFinset_cons]
      by_cases hmem : ep ∈ seen
      · have hseen : ep ∈ seen.toFinset := List.mem_toFinset.mpr hmem
        rw [if_pos hmem, Finset.insert_eq_of_mem hseen,
          Finset.insert_sdiff_of_mem _ hseen]
        simp
      · have hnew : ep ∉ seen.toFinset := fun hin => hmem (List.mem_toFinset.mp hin)
        have hwas : (reply ep).any p = true := hall ep List.mem_cons_self
        rw [if_neg hmem, hwas, if_pos rfl, Finset.insert_sdiff_of_notMem _ hnew,
          Finset.sdiff_insert, ← Finset.erase_insert_eq_erase,
          Finset.card_erase_add_one (Finset.mem_insert_self ep _)]

end Responses

namespace ResponseCall

/-- All nodes are asked, then the replies arrive. -/
def participation (nodes : List Endpoint) (replies : List (Endpoint × Endpoint)) :
    List ResponseCall :=
  nodes.map addRequestedEp ++ replies.map fun reply => addResponse reply.1 reply.2

/-- The latest reply of every node is no loopback address. -/
def AllReplied (nodes : List Endpoint) (replies : List (Endpoint × Endpoint)) : Prop :=
  ∀ ep ∈ nodes, ∃ reply, latestReply (participation nodes replies) ep = some reply ∧
    reply.address.isLoopback = false

@[simp]
theorem requested_participation (nodes : List Endpoint)
    (replies : List (Endpoint × Endpoint)) :
    requested (participation nodes replies) = nodes := by
  simp [participation, requested, List.filterMap_map]

/-- Every node may reply. -/
theorem exists_allReplied (nodes : List Endpoint) :
    ∃ replies, AllReplied nodes replies := by
  have hreplied : ∀ sources : List Endpoint, ∀ ep ∈ nodes, ep ∈ sources →
      latestReply (participation nodes (sources.map fun srcEp => (srcEp, nodeAt 1))) ep =
        some (nodeAt 1) := by
    intro sources
    induction sources using List.reverseRecOn with
    | nil => exact fun ep _ hnone => absurd hnone List.not_mem_nil
    | append_singleton sources srcEp ih =>
        intro ep hasked hsource
        have hlast : participation nodes
            ((sources ++ [srcEp]).map fun srcEp => (srcEp, nodeAt 1)) =
            participation nodes (sources.map fun srcEp => (srcEp, nodeAt 1)) ++
              [addResponse srcEp (nodeAt 1)] := by
          simp [participation]
        rw [hlast, latestReply_addResponse, requested_participation]
        by_cases hsame : ep = srcEp
        · rw [if_pos ⟨hsame, hasked⟩]
        · rw [if_neg fun hboth => hsame hboth.1]
          refine ih ep hasked ?_
          simpa [hsame] using hsource
  exact ⟨_, fun ep hep => ⟨_, hreplied nodes ep hep hep, by decide⟩⟩

section Counts

variable {nodes : List Endpoint} {replies : List (Endpoint × Endpoint)}
  (hall : AllReplied nodes replies)

include hall

theorem countP_participation {p : Endpoint → Bool}
    (hp : ∀ reply : Endpoint, reply.address.isLoopback = false → p reply = true) :
    (responsesAfter (participation nodes replies)).countP (fun entry => entry.2.any p) =
      nodes.toFinset.card := by
  have hreplied : ∀ ep ∈ nodes,
      (latestReply (participation nodes replies) ep).any p = true := by
    intro ep hep
    obtain ⟨reply, hlatest, hglobal⟩ := hall ep hep
    rw [hlatest, Option.any_some]
    exact hp reply hglobal
  rw [responsesAfter_eq_credited, requested_participation,
    Responses.countP_credited p hreplied, List.toFinset_nil, Finset.sdiff_empty]

theorem repliedCount_participation :
    (responsesAfter (participation nodes replies)).repliedCount = nodes.toFinset.card := by
  rw [← countP_participation hall (p := fun _ => true) fun _ _ => rfl]
  refine List.countP_congr fun entry _ => ?_
  cases entry.2 <;> simp

theorem length_validGlobalEps_participation :
    (responsesAfter (participation nodes replies)).validGlobalEps.length =
      nodes.toFinset.card := by
  rw [← countP_participation hall (p := fun reply => !reply.address.isLoopback)
    fun reply hglobal => by rw [hglobal]; rfl]
  rw [Responses.validGlobalEps, ← List.countP_eq_length_filter, List.countP_filterMap]
  refine List.countP_congr fun entry _ => ?_
  cases entry.2 <;> simp

end Counts

end ResponseCall

namespace StunServer

variable (platform : Platform)

def requestObserver (id : Uuid) (now : ℕ) (nodes : List Endpoint) : BindingRequest :=
  nodes.foldl (fun obs ep => obs.addRequestedEp ep) (BindingRequest.make id now)

def afterReplies (obs : BindingRequest) (replies : List (Endpoint × Endpoint)) :
    BindingRequest :=
  replies.foldl (fun obs reply => obs.answered platform reply.1 reply.2) obs

/-- Once every node that `binding_request` asks has replied with an address that is no
loopback address, the election of the stored observer is done. -/
def FullParticipationDecides (table : KRoutingTable) (targetNodes : List Endpoint)
    (reliability : ℕ) : Prop :=
  ∀ (strage : IceObserverStrage) (io : IoContext) (id : Uuid) (obs : BindingRequest)
    (replies : List (Endpoint × Endpoint)),
    strage.bindings.find id = none →
    (bindingRequest platform strage io table id targetNodes reliability).1.bindings.find id =
      some obs →
    ResponseCall.AllReplied (requestNodes platform table targetNodes reliability) replies →
    ((afterReplies platform obs replies).consensus platform false).state = .done

variable {platform}

theorem find_bindingRequest {strage : IceObserverStrage} {io : IoContext}
    {table : KRoutingTable} {id : Uuid} {targetNodes : List Endpoint} {reliability : ℕ}
    (hfresh : strage.bindings.find id = none) :
    (bindingRequest platform strage io table id targetNodes reliability).1.bindings.find id =
      if requestNodes platform table targetNodes reliability = [] then none
      else some (requestObserver id io.now
        (requestNodes platform table targetNodes reliability)) := by
  simp only [bindingRequest, List.isEmpty_iff]
  split_ifs with hnone
  · exact hfresh
  · have hid : (requestObserver id io.now
        (requestNodes platform table targetNodes reliability)).id = id := by
      rw [requestObserver, BindingRequest.foldl_addRequestedEp]
      rfl
    rw [← hid] at hfresh
    have hstored : (strage.bindings.insert (requestObserver id io.now
        (requestNodes platform table targetNodes reliability))).find id = _ :=
      KeyedList.find_insert hfresh id
    rwa [if_pos hid] at hstored

theorem responses_afterReplies (id : Uuid) (now : ℕ) (nodes : List Endpoint)
    (replies : List (Endpoint × Endpoint)) :
    (afterReplies platform (requestObserver id now nodes) replies).responses =
      ResponseCall.responsesAfter (ResponseCall.participation nodes replies) := by
  have hrequests : (requestObserver id now nodes).responses =
      nodes.foldl Responses.addRequestedEp [] :=
    (List.foldl_hom BindingRequest.responses fun _ _ => rfl).symm
  have hreplies : ∀ obs : BindingRequest, (afterReplies platform obs replies).responses =
      replies.foldl (fun responses reply => responses.addResponse reply.1 reply.2)
        obs.responses := fun obs =>
    (List.foldl_hom BindingRequest.responses fun obs reply =>
      (obs.responses_answered platform reply.1 reply.2).symm).symm
  rw [hreplies, hrequests, ResponseCall.responsesAfter, ResponseCall.participation,
    List.foldl_append, List.foldl_map, List.foldl_map]
  rfl

/-- A full participation decides exactly when two fifths of the requests went to
different nodes, counted with 16 bits. -/
theorem fullParticipationDecides_iff (platform : Platform) (table : KRoutingTable)
    (targetNodes : List Endpoint) (reliability : ℕ) :
    FullParticipationDecides platform table targetNodes reliability ↔
      2 * (requestNodes platform table targetNodes reliability).length ≤
        5 * ((requestNodes platform table targetNodes reliability).toFinset.card %
          2 ^ 16) := by
  generalize hnodes : requestNodes platform table targetNodes reliability = nodes
  by_cases hempty : nodes = []
  · subst hempty
    refine ⟨fun _ => Nat.zero_le _, fun _ => ?_⟩
    intro strage io id obs replies hfresh hfind
    rw [find_bindingRequest hfresh, if_pos hnodes] at hfind
    cases hfind
  · have hdone : ∀ id now replies, ResponseCall.AllReplied nodes replies →
        (((afterReplies platform (requestObserver id now nodes) replies).consensus platform
          false).state = .done ↔ 2 * nodes.length ≤ 5 * (nodes.toFinset.card % 2 ^ 16)) := by
      intro id now replies hall
      have hpositive : 0 < nodes.toFinset.card := by
        rwa [Finset.card_pos, List.toFinset_nonempty_iff]
      have henough : max (nodes.toFinset.card % 2 ^ 16 / 3) 1 ≤ nodes.toFinset.card :=
        max_le ((Nat.div_le_self _ 3).trans (Nat.mod_le _ _)) hpositive
      rw [BindingRequest.state_consensus_eq_done_iff, responses_afterReplies,
        Responses.Quorum, Responses.EnoughValid,
        ResponseCall.repliedCount_participation hall,
        ResponseCall.length_validGlobalEps_participation hall,
        ResponseCall.responsesAfter_eq_credited, Responses.length_credited,
        ResponseCall.requested_participation]
      exact and_iff_left henough
    constructor
    · intro hevery
      obtain ⟨replies, hall⟩ := ResponseCall.exists_allReplied nodes
      refine (hdone 7 0 replies hall).mp (hevery .empty (.start 0) 7 _ replies rfl ?_ ?_)
      · rw [find_bindingRequest rfl, hnodes, if_neg hempty]
        rfl
      · rwa [hnodes]
    · intro hquorum strage io id obs replies hfresh hfind hall
      rw [hnodes] at hall
      rw [find_bindingRequest hfresh, hnodes, if_neg hempty] at hfind
      obtain rfl := Option.some.inj hfind
      exact (hdone id io.now replies hall).mpr hquorum

/-- One node given three times: its reply answers one of three requests. -/
theorem not_fullParticipationDecides_thrice :
    ¬ FullParticipationDecides (hostPlatform [])
        (.empty (calcNodeId (hostPlatform []) (nodeAt 1))) [nodeAt 2, nodeAt 2, nodeAt 2]
        10 := by
  intro hevery
  have hall : ResponseCall.AllReplied [nodeAt 2, nodeAt 2, nodeAt 2]
      [(nodeAt 2, nodeAt 1)] := by
    intro ep hep
    obtain rfl : ep = nodeAt 2 := by simpa using hep
    exact ⟨nodeAt 1, by decide +kernel, by decide⟩
  have hdone := hevery .empty (.start 0) 7 _ _ rfl rfl hall
  revert hdone
  decide +kernel

end StunServer

end SsP2p.Ice

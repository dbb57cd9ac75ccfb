import SsP2p.Core.Utils
import Mathlib.Data.Rat.Defs
import Mathlib.Algebra.Order.Field.Rat
import Mathlib.Data.List.Nodup
import Mathlib.Data.List.TakeWhile
import Mathlib.Tactic.Linarith
import Mathlib.Tactic.NormNum
import Mathlib.Tactic.Ring

/-!
# The election of the global endpoint

A `binding_request` asks several nodes under which endpoint they see this one.
`global_ep_consensus` elects the endpoint with the most votes once enough nodes
have replied: the election is a plurality vote in which every requested node has
the one vote of its latest reply.
-/

namespace SsP2p.Ice

inductive ConsensusState where
  | done
  | onHandling
  | errorDone
  deriving DecidableEq

structure ConsensusCtx where
  state : ConsensusState
  ep : Option Endpoint
  deriving DecidableEq

/-- `_responses`: the nodes a request was sent to, with their latest reply. -/
abbrev Responses := List (Endpoint × Option Endpoint)

namespace Responses

def addRequestedEp (responses : Responses) (ep : Endpoint) : Responses :=
  responses ++ [(ep, none)]

/-- `add_response`: the first entry of the source, found by `find_if`. -/
def addResponse : Responses → Endpoint → Endpoint → Responses
  | [], _, _ => []
  | (ep, reply) :: responses, srcEp, responseEp =>
      if ep = srcEp then (ep, some responseEp) :: responses
      else (ep, reply) :: addResponse responses srcEp responseEp

/-- `response_count`, an `unsigned short`. -/
def responseCount (responses : Responses) : UInt16 :=
  UInt16.ofNat (responses.countP fun entry => entry.2.isSome)

/-- `vli_global_eps`. -/
def validGlobalEps (responses : Responses) : List Endpoint :=
  (responses.filterMap Prod.snd).filter fun ep => !ep.address.isLoopback

/-- `global_ep_consensus`; `none` stands for the front of an empty vector. -/
def globalEpConsensus (sort : CounterSort) (responses : Responses)
    (isForce : Bool) : Option ConsensusCtx :=
  let responseCount := responses.responseCount.toNat
  if (responseCount : ℚ) < responses.length / (5 / 2) then some ⟨.onHandling, none⟩
  else
    let validEps := responses.validGlobalEps
    if !isForce && decide (validEps.length < max (responseCount / 3) 1) then
      some ⟨.onHandling, none⟩
    else if isForce && validEps.isEmpty then some ⟨.errorDone, none⟩
    else (Plurality.elect sort validEps).map fun ep => ⟨.done, some ep⟩

/-- The threshold in integers. -/
theorem threshold_iff (responseCount requestCount : ℕ) :
    (responseCount : ℚ) < requestCount / (5 / 2) ↔
      5 * responseCount < 2 * requestCount := by
  have hscale : (requestCount : ℚ) / (5 / 2) = 2 * requestCount / 5 := by ring
  rw [hscale, lt_div_iff₀ (by norm_num), mul_comm]
  exact_mod_cast Iff.rfl

/-- The `double` of the source decides the same: a rounding that keeps the eighths
cannot move a multiple of a fifth past an integer. -/
theorem threshold_rounded_iff (round : ℚ → ℚ) (hmono : Monotone round)
    (responseCount requestCount : ℕ)
    (hexact : ∀ eighths : ℕ, eighths ≤ 8 * requestCount →
      round (eighths / 8) = eighths / 8) :
    (responseCount : ℚ) < round (requestCount / (5 / 2)) ↔
      5 * responseCount < 2 * requestCount := by
  have hscale : (requestCount : ℚ) / (5 / 2) = 2 * requestCount / 5 := by ring
  rw [hscale]
  constructor
  · intro hlt
    by_contra hnot
    have hbound : 2 * requestCount ≤ 5 * min responseCount requestCount := by omega
    have hboundRat : (2 * requestCount : ℚ) ≤ 5 * (min responseCount requestCount : ℕ) := by
      exact_mod_cast hbound
    have hkept := hexact (8 * min responseCount requestCount) (by omega)
    have hle : (2 * requestCount / 5 : ℚ) ≤
        (8 * min responseCount requestCount : ℕ) / 8 := by
      push_cast at hboundRat ⊢
      linarith
    have hround := hmono hle
    have hmin : ((min responseCount requestCount : ℕ) : ℚ) ≤ responseCount := by
      exact_mod_cast Nat.min_le_left _ _
    rw [hkept] at hround
    push_cast at hround hmin
    linarith
  · intro hlt
    have hstep : 5 * responseCount + 1 ≤ 2 * requestCount := hlt
    have hstepRat : (5 * responseCount + 1 : ℚ) ≤ 2 * requestCount := by
      exact_mod_cast hstep
    have hkept := hexact (8 * responseCount + 1) (by omega)
    have hle : ((8 * responseCount + 1 : ℕ) / 8 : ℚ) ≤ 2 * requestCount / 5 := by
      push_cast
      linarith
    have hround := hmono hle
    rw [hkept] at hround
    push_cast at hround
    linarith

/-- The unforced election with its two thresholds as one. -/
theorem globalEpConsensus_false (sort : CounterSort) (responses : Responses) :
    responses.globalEpConsensus sort false =
      if 2 * responses.length ≤ 5 * responses.responseCount.toNat ∧
          max (responses.responseCount.toNat / 3) 1 ≤ responses.validGlobalEps.length then
        (Plurality.elect sort responses.validGlobalEps).map fun ep => ⟨.done, some ep⟩
      else some ⟨.onHandling, none⟩ := by
  simp only [globalEpConsensus, threshold_iff, Bool.not_false, Bool.true_and,
    decide_eq_true_eq, Bool.false_and, Bool.false_eq_true, if_false]
  by_cases hfew : 5 * responses.responseCount.toNat < 2 * responses.length
  · rw [if_pos hfew, if_neg (fun hboth => Nat.not_le.mpr hfew hboth.1)]
  · rw [if_neg hfew]
    by_cases hvalid :
        responses.validGlobalEps.length < max (responses.responseCount.toNat / 3) 1
    · rw [if_pos hvalid, if_neg (fun hboth => Nat.not_le.mpr hvalid hboth.2)]
    · rw [if_neg hvalid, if_pos ⟨Nat.not_lt.mp hfew, Nat.not_lt.mp hvalid⟩]

/-- The front of the counters is only read when there is one. -/
theorem globalEpConsensus_ne_none (sort : CounterSort) (responses : Responses)
    (isForce : Bool) : responses.globalEpConsensus sort isForce ≠ none := by
  simp only [globalEpConsensus]
  split
  · exact Option.some_ne_none _
  · split
    · exact Option.some_ne_none _
    · rename_i hthreshold
      split
      · exact Option.some_ne_none _
      · rename_i hforce
        rw [ne_eq, Option.map_eq_none_iff, Plurality.elect_eq_none_iff]
        intro hempty
        cases isForce with
        | false => simp [hempty] at hthreshold
        | true => simp [hempty] at hforce

/-- The order of the entries has no influence. -/
theorem globalEpConsensus_of_perm (sort : CounterSort) {left right : Responses}
    (hperm : left.Perm right) (isForce : Bool) :
    left.globalEpConsensus sort isForce = right.globalEpConsensus sort isForce := by
  have hvalid : left.validGlobalEps.Perm right.validGlobalEps :=
    (hperm.filterMap Prod.snd).filter _
  have hcount : left.responseCount = right.responseCount := by
    rw [responseCount, responseCount, hperm.countP_eq]
  simp only [globalEpConsensus, hcount, hperm.length_eq, hvalid.length_eq,
    hvalid.isEmpty_eq, Plurality.elect_of_perm sort hvalid]

/-! ## Which request a reply answers -/

/-- The requests in their order, where the first one to a node holds its reply; the
requests to the nodes in `seen` are further ahead. -/
def credited (reply : Endpoint → Option Endpoint) : List Endpoint → List Endpoint → Responses
  | _, [] => []
  | seen, ep :: eps =>
      (ep, if ep ∈ seen then none else reply ep) :: credited reply (ep :: seen) eps

@[simp]
theorem length_credited (reply : Endpoint → Option Endpoint) (seen eps : List Endpoint) :
    (credited reply seen eps).length = eps.length := by
  induction eps generalizing seen with
  | nil => rfl
  | cons ep eps ih => rw [credited, List.length_cons, List.length_cons, ih]

theorem credited_congr {reply other : Endpoint → Option Endpoint} {seen eps : List Endpoint}
    (heq : ∀ ep ∈ eps, ep ∉ seen → reply ep = other ep) :
    credited reply seen eps = credited other seen eps := by
  induction eps generalizing seen with
  | nil => rfl
  | cons ep eps ih =>
      have hrest : ∀ next ∈ eps, next ∉ ep :: seen → reply next = other next :=
        fun next hmem hnext => heq next (List.mem_cons_of_mem ep hmem)
          fun hseen => hnext (List.mem_cons_of_mem ep hseen)
      rw [credited, credited, ih hrest]
      by_cases hmem : ep ∈ seen
      · rw [if_pos hmem, if_pos hmem]
      · rw [if_neg hmem, if_neg hmem, heq ep List.mem_cons_self hmem]

/-- A further request to a node is not credited again. -/
theorem credited_append (reply : Endpoint → Option Endpoint) (seen eps : List Endpoint)
    (asked : Endpoint) :
    credited reply seen (eps ++ [asked]) =
      credited reply seen eps ++
        [(asked, if asked ∈ seen ∨ asked ∈ eps then none else reply asked)] := by
  induction eps generalizing seen with
  | nil => simp [credited]
  | cons ep eps ih =>
      rw [List.cons_append, credited, credited, ih, List.cons_append]
      have hiff : (asked ∈ ep :: seen ∨ asked ∈ eps) ↔
          (asked ∈ seen ∨ asked ∈ ep :: eps) := by
        rw [List.mem_cons, List.mem_cons, or_assoc, or_left_comm]
      simp only [hiff]

/-- A reply goes to the first request to its node. -/
theorem addResponse_credited (reply : Endpoint → Option Endpoint) {seen : List Endpoint}
    {srcEp : Endpoint} (hnew : srcEp ∉ seen) (responseEp : Endpoint) (eps : List Endpoint) :
    addResponse (credited reply seen eps) srcEp responseEp =
      credited (fun ep => if ep = srcEp then some responseEp else reply ep) seen eps := by
  induction eps generalizing seen with
  | nil => rfl
  | cons ep eps ih =>
      rw [credited, addResponse, credited]
      by_cases hsame : ep = srcEp
      · subst hsame
        have hkept : ∀ other ∈ eps, other ∉ ep :: seen →
            reply other = if other = ep then some responseEp else reply other := by
          intro other _ hother
          have hne : other ≠ ep := fun heq => hother (heq ▸ List.mem_cons_self)
          rw [if_neg hne]
        rw [if_pos rfl, if_neg hnew, if_pos rfl, credited_congr hkept]
      · rw [if_neg hsame, if_neg hsame,
          ih fun hmem => (List.mem_cons.mp hmem).elim (fun heq => hsame heq.symm) hnew]

/-- Without repetitions every request holds its reply. -/
theorem credited_of_nodup (reply : Endpoint → Option Endpoint) {seen eps : List Endpoint}
    (hdistinct : eps.Nodup) (hnew : ∀ ep ∈ eps, ep ∉ seen) :
    credited reply seen eps = eps.map fun ep => (ep, reply ep) := by
  induction eps generalizing seen with
  | nil => rfl
  | cons ep eps ih =>
      obtain ⟨hnotMem, hdistinct⟩ := List.nodup_cons.mp hdistinct
      have hrest : ∀ other ∈ eps, other ∉ ep :: seen := by
        intro other hother hseen
        cases List.mem_cons.mp hseen with
        | inl hsame => exact hnotMem (hsame ▸ hother)
        | inr hseen => exact hnew other (List.mem_cons_of_mem ep hother) hseen
      rw [credited, if_neg (hnew ep List.mem_cons_self), ih hdistinct hrest, List.map_cons]

end Responses

/-! ## The calls and what they amount to -/

inductive ResponseCall where
  | addRequestedEp (ep : Endpoint)
  | addResponse (srcEp responseEp : Endpoint)
  deriving DecidableEq

namespace ResponseCall

def apply (responses : Responses) : ResponseCall → Responses
  | addRequestedEp ep => responses.addRequestedEp ep
  | addResponse srcEp responseEp => responses.addResponse srcEp responseEp

def responsesAfter (calls : List ResponseCall) : Responses :=
  calls.foldl apply []

def requested (calls : List ResponseCall) : List Endpoint :=
  calls.filterMap fun
    | addRequestedEp ep => some ep
    | addResponse _ _ => none

def repliesOf (ep : Endpoint) (calls : List ResponseCall) : List Endpoint :=
  calls.filterMap fun
    | addRequestedEp _ => none
    | addResponse srcEp responseEp => if srcEp = ep then some responseEp else none

/-- The last reply of a node after it was asked. -/
def latestReply (calls : List ResponseCall) (ep : Endpoint) : Option Endpoint :=
  (repliesOf ep (calls.dropWhile (· ≠ addRequestedEp ep))).getLast?

def repliedCount (calls : List ResponseCall) : ℕ :=
  (requested calls).countP fun ep => (latestReply calls ep).isSome

/-- The number of asked nodes whose latest reply is not a loopback address. -/
def nonLoopbackCount (calls : List ResponseCall) : ℕ :=
  (requested calls).countP fun ep =>
    (latestReply calls ep).any fun reply => !reply.address.isLoopback

/-- The number of asked nodes whose latest reply is this endpoint. -/
def votes (calls : List ResponseCall) (reply : Endpoint) : ℕ :=
  (requested calls).countP fun ep => latestReply calls ep = some reply

theorem mem_requested {calls : List ResponseCall} {ep : Endpoint} :
    ep ∈ requested calls ↔ addRequestedEp ep ∈ calls := by
  rw [requested, List.mem_filterMap]
  constructor
  · rintro ⟨call, hcall, heq⟩
    cases call with
    | addRequestedEp other =>
        obtain rfl := Option.some.inj heq
        exact hcall
    | addResponse srcEp responseEp => cases heq
  · intro hcall
    exact ⟨_, hcall, rfl⟩

/-- Nothing is left to read for a node that was not asked. -/
theorem dropWhile_isEmpty_iff {calls : List ResponseCall} {ep : Endpoint} :
    (calls.dropWhile (· ≠ addRequestedEp ep)).isEmpty = true ↔
      ep ∉ requested calls := by
  rw [List.isEmpty_iff, List.dropWhile_eq_nil_iff, mem_requested]
  simp only [decide_eq_true_eq]
  constructor
  · intro hall hmem
    exact hall _ hmem rfl
  · rintro hnotMem call hcall rfl
    exact hnotMem hcall

theorem latestReply_of_notMem {calls : List ResponseCall} {ep : Endpoint}
    (hnotAsked : ep ∉ requested calls) : latestReply calls ep = none := by
  have hempty := List.isEmpty_iff.mp (dropWhile_isEmpty_iff.mpr hnotAsked)
  rw [latestReply, hempty]
  rfl

theorem latestReply_addRequestedEp (calls : List ResponseCall)
    (asked ep : Endpoint) :
    latestReply (calls ++ [addRequestedEp asked]) ep = latestReply calls ep := by
  rw [latestReply, List.dropWhile_append]
  by_cases hasked : ep ∈ requested calls
  · rw [if_neg (fun hempty => dropWhile_isEmpty_iff.mp hempty hasked), repliesOf,
      List.filterMap_append]
    simp [latestReply, repliesOf]
  · rw [if_pos (dropWhile_isEmpty_iff.mpr hasked), latestReply_of_notMem hasked]
    by_cases hsame : asked = ep <;> simp [List.dropWhile, hsame, repliesOf]

theorem latestReply_addResponse (calls : List ResponseCall)
    (srcEp responseEp ep : Endpoint) :
    latestReply (calls ++ [addResponse srcEp responseEp]) ep =
      if ep = srcEp ∧ ep ∈ requested calls then some responseEp
      else latestReply calls ep := by
  rw [latestReply, List.dropWhile_append]
  by_cases hasked : ep ∈ requested calls
  · rw [if_neg (fun hempty => dropWhile_isEmpty_iff.mp hempty hasked), repliesOf,
      List.filterMap_append]
    by_cases hsame : ep = srcEp
    · simp [hsame, hsame ▸ hasked]
    · simp [hsame, Ne.symm hsame, latestReply, repliesOf]
  · rw [if_pos (dropWhile_isEmpty_iff.mpr hasked), latestReply_of_notMem hasked]
    simp [List.dropWhile, repliesOf, hasked]

/-- A reply says nothing about the other nodes. -/
theorem latestReply_of_ne {srcEp ep : Endpoint} (hne : ep ≠ srcEp)
    (before : List ResponseCall) (responseEp : Endpoint) (after : List ResponseCall) :
    latestReply (before ++ addResponse srcEp responseEp :: after) ep =
      latestReply (before ++ after) ep := by
  rw [latestReply, latestReply, List.dropWhile_append, List.dropWhile_append]
  by_cases hasked : ep ∈ requested before
  · rw [if_neg (fun hempty => dropWhile_isEmpty_iff.mp hempty hasked),
      if_neg (fun hempty => dropWhile_isEmpty_iff.mp hempty hasked)]
    simp [repliesOf, Ne.symm hne]
  · rw [if_pos (dropWhile_isEmpty_iff.mpr hasked),
      if_pos (dropWhile_isEmpty_iff.mpr hasked)]
    simp [List.dropWhile]

/-- What is stored after any calls, in whatever order and with repetitions. -/
theorem responsesAfter_eq_credited (calls : List ResponseCall) :
    responsesAfter calls = Responses.credited (latestReply calls) [] (requested calls) := by
  induction calls using List.reverseRecOn with
  | nil => rfl
  | append_singleton calls call ih =>
      have hrequested : requested (calls ++ [call]) = requested calls ++ requested [call] :=
        List.filterMap_append
      rw [responsesAfter] at ih
      rw [responsesAfter, List.foldl_append, ih, List.foldl_cons, List.foldl_nil, hrequested]
      cases call with
      | addRequestedEp asked =>
          have hnew : requested [addRequestedEp asked] = [asked] := rfl
          rw [hnew, Responses.credited_append, apply, Responses.addRequestedEp]
          have hsame : latestReply (calls ++ [addRequestedEp asked]) = latestReply calls :=
            funext (latestReply_addRequestedEp calls asked)
          rw [hsame]
          by_cases hasked : asked ∈ requested calls
          · rw [if_pos (Or.inr hasked)]
          · rw [if_neg (by simpa using hasked), latestReply_of_notMem hasked]
      | addResponse srcEp responseEp =>
          have hnew : requested [addResponse srcEp responseEp] = [] := rfl
          rw [hnew, List.append_nil, apply,
            Responses.addResponse_credited _ List.not_mem_nil]
          apply Responses.credited_congr
          intro ep hep _
          rw [latestReply_addResponse]
          simp only [hep, and_true]

/-- The table of responses is the latest reply of every asked node. -/
theorem responsesAfter_eq {calls : List ResponseCall}
    (hdistinct : (requested calls).Nodup) :
    responsesAfter calls =
      (requested calls).map fun ep => (ep, latestReply calls ep) := by
  rw [responsesAfter_eq_credited,
    Responses.credited_of_nodup _ hdistinct fun _ _ => List.not_mem_nil]

/-! ## The counts of the election -/

section Counts

variable {calls : List ResponseCall} (hdistinct : (requested calls).Nodup)

include hdistinct

theorem length_responsesAfter :
    (responsesAfter calls).length = (requested calls).length := by
  rw [responsesAfter_eq hdistinct, List.length_map]

theorem responseCount_responsesAfter (hfew : (requested calls).length < 2 ^ 16) :
    (responsesAfter calls).responseCount.toNat = repliedCount calls := by
  have hbound : repliedCount calls < 2 ^ 16 :=
    Nat.lt_of_le_of_lt List.countP_le_length hfew
  rw [Responses.responseCount, responsesAfter_eq hdistinct, List.countP_map,
    UInt16.toNat_ofNat']
  exact Nat.mod_eq_of_lt hbound

theorem validGlobalEps_responsesAfter :
    (responsesAfter calls).validGlobalEps =
      ((requested calls).filterMap (latestReply calls)).filter
        fun ep => !ep.address.isLoopback := by
  rw [Responses.validGlobalEps, responsesAfter_eq hdistinct, List.filterMap_map]
  rfl

theorem length_validGlobalEps :
    (responsesAfter calls).validGlobalEps.length = nonLoopbackCount calls := by
  rw [validGlobalEps_responsesAfter hdistinct, ← List.countP_eq_length_filter,
    List.countP_filterMap, nonLoopbackCount]
  refine List.countP_congr fun ep _ => ?_
  cases latestReply calls ep <;> simp

theorem count_validGlobalEps {reply : Endpoint}
    (hglobal : reply.address.isLoopback = false) :
    (responsesAfter calls).validGlobalEps.count reply = votes calls reply := by
  rw [validGlobalEps_responsesAfter hdistinct, List.count_filter (by simp [hglobal]),
    List.count, List.countP_filterMap, votes]
  refine List.countP_congr fun ep _ => ?_
  cases latestReply calls ep <;> simp

theorem mem_validGlobalEps {reply : Endpoint} :
    reply ∈ (responsesAfter calls).validGlobalEps ↔
      (∃ ep ∈ requested calls, latestReply calls ep = some reply) ∧
        reply.address.isLoopback = false := by
  rw [validGlobalEps_responsesAfter hdistinct, List.mem_filter, List.mem_filterMap,
    Bool.not_eq_true']

/-- The responses of other calls with the same latest replies are the same up to
their order. -/
theorem perm_responsesAfter {others : List ResponseCall}
    (hasked : (requested others).Perm (requested calls))
    (hlatest : ∀ ep, latestReply others ep = latestReply calls ep) :
    (responsesAfter others).Perm (responsesAfter calls) := by
  rw [responsesAfter_eq hdistinct,
    responsesAfter_eq (hasked.nodup_iff.mpr hdistinct)]
  simp only [hlatest]
  exact hasked.map _

end Counts

/-- A reply of a node that is never asked leaves no trace. -/
theorem responsesAfter_of_notMem {srcEp : Endpoint} (before : List ResponseCall)
    (responseEp : Endpoint) (after : List ResponseCall)
    (hdistinct : (requested (before ++ after)).Nodup)
    (hnotAsked : srcEp ∉ requested (before ++ after)) :
    responsesAfter (before ++ addResponse srcEp responseEp :: after) =
      responsesAfter (before ++ after) := by
  have hrequested : requested (before ++ addResponse srcEp responseEp :: after) =
      requested (before ++ after) := by
    simp [requested]
  rw [responsesAfter_eq hdistinct, responsesAfter_eq (hrequested ▸ hdistinct),
    hrequested]
  refine List.map_congr_left fun ep hep => ?_
  have hne : ep ≠ srcEp := fun heq => hnotAsked (heq ▸ hep)
  rw [latestReply_of_ne hne]

/-! ## The election -/

/-- `global_ep_consensus` is a plurality vote with one vote for each asked node:
it is decided exactly when two fifths of the nodes have replied and a third of the
replies, at least one, is not a loopback address; the winner is such a reply, and
no other one has more votes.  Replies of nodes never asked, earlier replies of the
same node and the order of arrival have no influence, and the front of the counters
is read only when there is one. -/
theorem globalEpConsensus_plurality (sort : CounterSort) (calls : List ResponseCall)
    (hdistinct : (requested calls).Nodup) (hfew : (requested calls).length < 2 ^ 16) :
    ∃ ctx, (responsesAfter calls).globalEpConsensus sort false = some ctx ∧
      (ctx.state = .done ↔
        2 * (requested calls).length ≤ 5 * repliedCount calls ∧
          max 1 (repliedCount calls / 3) ≤ nonLoopbackCount calls) ∧
      (ctx.state = .done → ∃ winner, ctx.ep = some winner ∧
        (∃ ep ∈ requested calls, latestReply calls ep = some winner) ∧
        winner.address.isLoopback = false ∧
        ∀ other : Endpoint, other.address.isLoopback = false →
          votes calls other ≤ votes calls winner) ∧
      (∀ before srcEp responseEp after,
        calls = before ++ addResponse srcEp responseEp :: after →
        srcEp ∉ requested calls →
        responsesAfter (before ++ after) = responsesAfter calls) ∧
      (∀ others, (requested others).Perm (requested calls) →
        (∀ ep, latestReply others ep = latestReply calls ep) →
        (responsesAfter others).globalEpConsensus sort false = some ctx) ∧
      ∀ isForce, (responsesAfter calls).globalEpConsensus sort isForce ≠ none := by
  obtain ⟨ctx, hctx⟩ := Option.ne_none_iff_exists'.mp
    (Responses.globalEpConsensus_ne_none sort (responsesAfter calls) false)
  have hdecided := hctx
  rw [Responses.globalEpConsensus_false, length_responsesAfter hdistinct,
    responseCount_responsesAfter hdistinct hfew, length_validGlobalEps hdistinct,
    max_comm] at hdecided
  refine ⟨ctx, hctx, ?_, ?_, ?_, ?_,
    Responses.globalEpConsensus_ne_none sort (responsesAfter calls)⟩
  · split at hdecided
    · rename_i hthreshold
      obtain ⟨winner, -, rfl⟩ := Option.map_eq_some_iff.mp hdecided
      exact iff_of_true rfl hthreshold
    · rename_i hthreshold
      obtain rfl := Option.some.inj hdecided
      exact iff_of_false ConsensusState.noConfusion hthreshold
  · intro hdone
    split at hdecided
    · obtain ⟨winner, helect, rfl⟩ := Option.map_eq_some_iff.mp hdecided
      have hfewValid : (responsesAfter calls).validGlobalEps.length < 2 ^ 16 := by
        rw [length_validGlobalEps hdistinct]
        exact Nat.lt_of_le_of_lt List.countP_le_length hfew
      obtain ⟨hmem, hmost⟩ := Plurality.elect_eq_some sort hfewValid helect
      obtain ⟨hasked, hglobal⟩ := (mem_validGlobalEps hdistinct).mp hmem
      refine ⟨winner, rfl, hasked, hglobal, fun other hother => ?_⟩
      have hle := hmost other
      rw [count_validGlobalEps hdistinct hother,
        count_validGlobalEps hdistinct hglobal] at hle
      exact hle
    · obtain rfl := Option.some.inj hdecided
      cases hdone
  · rintro before srcEp responseEp after rfl hnotAsked
    have hrequested : requested (before ++ addResponse srcEp responseEp :: after) =
        requested (before ++ after) := by
      simp [requested]
    rw [hrequested] at hdistinct hnotAsked
    exact (responsesAfter_of_notMem before responseEp after hdistinct hnotAsked).symm
  · intro others hasked hlatest
    rw [Responses.globalEpConsensus_of_perm sort
      (perm_responsesAfter hdistinct hasked hlatest), hctx]

/-- Three nodes are asked, a fourth replies too, and the first one changes its
mind. -/
def threeAsked : List ResponseCall :=
  [addRequestedEp ⟨.v4 0x0A000001, 8100⟩, addRequestedEp ⟨.v4 0x0A000002, 8100⟩,
    addRequestedEp ⟨.v4 0x0A000003, 8100⟩,
    addResponse ⟨.v4 0x0A000001, 8100⟩ ⟨.v4 0x7F000001, 8100⟩,
    addResponse ⟨.v4 0x0A000004, 8100⟩ ⟨.v4 0xC0000201, 7000⟩,
    addResponse ⟨.v4 0x0A000002, 8100⟩ ⟨.v4 0xC0000202, 7000⟩,
    addResponse ⟨.v4 0x0A000001, 8100⟩ ⟨.v4 0xC0000202, 7000⟩]

theorem globalEpConsensus_threeAsked :
    ∃ ctx, (responsesAfter threeAsked).globalEpConsensus Plurality.byMergeSort false =
        some ctx ∧
      ctx.state = .done ∧ ctx.ep = some ⟨.v4 0xC0000202, 7000⟩ := by
  obtain ⟨ctx, hctx, hdone, hwinner, -⟩ :=
    globalEpConsensus_plurality Plurality.byMergeSort threeAsked (by decide) (by decide)
  have hstate : ctx.state = .done := hdone.mpr (by decide)
  obtain ⟨winner, hep, ⟨asked, hasked, hlatest⟩, hglobal, -⟩ := hwinner hstate
  have hevery : ∀ ep ∈ requested threeAsked, latestReply threeAsked ep = none ∨
      latestReply threeAsked ep = some ⟨.v4 0xC0000202, 7000⟩ := by decide
  refine ⟨ctx, hctx, hstate, ?_⟩
  rcases hevery asked hasked with hnone | hsome
  · rw [hnone] at hlatest
    cases hlatest
  · rw [hep, ← hlatest, hsome]

end ResponseCall

end SsP2p.Ice

/-
# Who is in the rollout

A share of the users is to be served by OR-Tools, and the hash of a user id says who
they are. The decision engine looks for the id at the top of the request; the optimizer
leaves it inside `extra_info`, so every request has the bucket of the anonymous user.
-/

import Goveling.Optimizer.EngineCascade
import Goveling.Ortools.DecisionEngine

namespace Goveling.Optimizer

open Goveling.Python Goveling.Ortools

/-- `request_data` of `optimize_itinerary_hybrid_v31`, whose dates are midnights. -/
def requestData (request : TripRequest) : RequestData where
  entries := [
    ("places", .list (request.places.map .dict)),
    ("daily_start_hour", .int request.dailyStartHour),
    ("daily_end_hour", .int request.dailyEndHour),
    ("transport_mode", .str request.transportMode),
    ("packing_strategy", .str request.packingStrategy),
    ("accommodations", request.accommodations),
    ("extra_info", if request.extraInfo.truthy then request.extraInfo else .dict [])]
  startDate := some (.moment (.naive (request.startDate * 86400)))
  endDate := some (.moment (.naive (request.endDate * 86400)))

/-- The user behind a request, where `_optimize_with_ortools` reads it. -/
def userOf (request : TripRequest) : PyVal :=
  match (requestData request).get "extra_info" (.dict []) with
  | .dict entries => PyDict.get entries "user_id" .none
  | _ => .none

/-- The md5 bucket of a user, out of a hundred. -/
def userBucket (library : AnalysisLibrary) (user : PyVal) : ℤ :=
  (library.md5Number (library.textOf user) % 100 : ℕ)

theorem userBucket_nonneg (library : AnalysisLibrary) (user : PyVal) :
    0 ≤ userBucket library user :=
  Int.natCast_nonneg _

theorem userBucket_lt (library : AnalysisLibrary) (user : PyVal) :
    userBucket library user < 100 :=
  Int.ofNat_lt.mpr (Nat.mod_lt _ (by norm_num))

/-- The user gate lets a request of the optimizer pass. -/
def PassesUserGate (settings : DecisionSettings) (library : AnalysisLibrary)
    (request : TripRequest) : Prop :=
  checkUserEligibility settings library (requestData request) = true

/-- The optimizer puts neither a user nor a session where the engine looks for them. -/
theorem userId_requestData (request : TripRequest) :
    (requestData request).get "user_id"
      ((requestData request).get "session_id" (.str "anonymous")) = .str "anonymous" := by
  simp [requestData, RequestData.get, PyDict.get, List.lookup_cons]

/-- Whoever makes the request, the anonymous user decides. -/
theorem passesUserGate_iff (settings : DecisionSettings) (library : AnalysisLibrary)
    (request : TripRequest) :
    PassesUserGate settings library request ↔
      userBucket library (.str "anonymous") < settings.userPercentage := by
  have hnonneg := userBucket_nonneg library (.str "anonymous")
  have hlt := userBucket_lt library (.str "anonymous")
  unfold PassesUserGate checkUserEligibility
  rw [userId_requestData]
  split
  · rename_i hall
    exact iff_of_true rfl (hlt.trans_le hall)
  · split
    · rename_i hnone
      exact iff_of_false Bool.false_ne_true (not_lt.mpr (hnone.trans hnonneg))
    · rw [decide_eq_true_eq]
      rfl

/-- The whole decision is the same for every user. -/
theorem decisionOn_requestData (env : DecisionEnv) (request : TripRequest) (other : PyVal) :
    ORToolsDecisionEngine.decisionOn env (requestData { request with extraInfo := other }) =
      ORToolsDecisionEngine.decisionOn env (requestData request) := by
  rfl

/-- The gate passes a user exactly when the own bucket is below the percentage. -/
def FollowsOwnBucket (settings : DecisionSettings) (library : AnalysisLibrary)
    (request : TripRequest) : Prop :=
  PassesUserGate settings library request ↔
    userBucket library (userOf request) < settings.userPercentage

/-- A user is on the same side of the rollout as the anonymous one. -/
def SidesWithAnonymous (settings : DecisionSettings) (library : AnalysisLibrary)
    (user : PyVal) : Prop :=
  userBucket library user < settings.userPercentage ↔
    userBucket library (.str "anonymous") < settings.userPercentage

/-- A request of a user without places. -/
def requestOf (user : PyVal) : TripRequest where
  places := []
  startDate := 20089
  endDate := 20089
  extraInfo := .dict [("user_id", user)]

@[simp]
theorem userOf_requestOf (user : PyVal) : userOf (requestOf user) = user := rfl

theorem followsOwnBucket_iff_sidesWithAnonymous (settings : DecisionSettings)
    (library : AnalysisLibrary) (request : TripRequest) :
    FollowsOwnBucket settings library request ↔
      SidesWithAnonymous settings library (userOf request) := by
  unfold FollowsOwnBucket SidesWithAnonymous
  rw [passesUserGate_iff]
  exact iff_comm

/-- The gate follows the bucket of the user behind a request exactly when the user is on the
same side of the rollout as the anonymous one; and it does so for all requests exactly when
all users are on that side. -/
theorem followsOwnBucket_iff (settings : DecisionSettings) (library : AnalysisLibrary) :
    (∀ request, FollowsOwnBucket settings library request ↔
      SidesWithAnonymous settings library (userOf request)) ∧
    ((∀ request, FollowsOwnBucket settings library request) ↔
      ∀ user, SidesWithAnonymous settings library user) := by
  refine ⟨followsOwnBucket_iff_sidesWithAnonymous settings library, ?_, ?_⟩
  · intro hall user
    have hrequest := hall (requestOf user)
    rwa [followsOwnBucket_iff_sidesWithAnonymous, userOf_requestOf] at hrequest
  · intro hall request
    rw [followsOwnBucket_iff_sidesWithAnonymous]
    exact hall (userOf request)

/-- The md5 numbers of two users. -/
def twoUsersLibrary : AnalysisLibrary := { plainLibrary with
  md5Number text :=
    if text = "anonymous" then 54902765565538006056615760086170609871
    else if text = "bob" then 212164099741615454138234394844395612632
    else 0 }

/-- Bob has the bucket 32, and the anonymous user has the bucket 71. -/
theorem not_followsOwnBucket_bob :
    ¬ FollowsOwnBucket { userPercentage := 50 } twoUsersLibrary (requestOf (.str "bob")) := by
  rw [followsOwnBucket_iff_sidesWithAnonymous]
  unfold SidesWithAnonymous
  decide

end Goveling.Optimizer

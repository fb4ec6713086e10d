import FaultInjection.Disruption
import FaultInjection.Proofs.Fleet.Cancellation

/-!
# Campaigns

A disruption that is ready is called for one fault after the other, with the cluster as it is by
then, while its token can be cancelled at any moment.  There are three ways to ask for a fault, and
they all come to making its command and carrying it out (`FaultCall.round_eq`).
`Application.Lawful` says what holds of every call of such a campaign, and `lawful_of_campaign` that
it does.
-/

namespace FaultInjection

open Concurrency

/-! ## Calls -/

/-- The three ways to ask for a fault. -/
inductive FaultCall where
  | described (spec : FaultSpec)
  | http (fault : HttpFault) (options : ProxyOptions)
  | grpc (fault : GrpcFault) (options : ProxyOptions)

namespace FaultCall

/-- The fault that is asked for. -/
def spec : FaultCall → FaultSpec
  | described spec => spec
  | http fault options => .http fault options
  | grpc fault options => .grpc fault options

/-- What a call leaves behind. -/
def round {ω : Type} (call : FaultCall) (fleet : Fleet) (access : PodAccess ω)
    (duration : Duration) (token : Option ℕ) (start : ℕ) (world : ω) : Round ω :=
  match call with
  | described spec => Disruption.apply fleet access spec.toFault duration token start world
  | http fault options => Disruption.applyHttp fleet access fault duration options token start world
  | grpc fault options => Disruption.applyGrpc fleet access fault duration options token start world

variable {ω : Type}

/-- **Each way** to ask for a fault carries out the command of the fault. -/
theorem round_eq (call : FaultCall) (fleet : Fleet) (access : PodAccess ω) (duration : Duration)
    (token : Option ℕ) (start : ℕ) (world : ω) :
    call.round fleet access duration token start world =
      Disruption.carryOut fleet access (call.spec.command duration) token start world := by
  cases call with
  | described fault =>
      show Disruption.carryOut fleet access (fault.toFault.command duration) token start world = _
      rw [← FaultSpec.command_eq]
      rfl
  | http fault options => rfl
  | grpc fault options => rfl

end FaultCall

/-! ## Campaigns -/

/-- A call for a fault, with the cluster as it is by then. -/
structure FaultRequest : Type 1 where
  call : FaultCall
  duration : Duration
  /-- What is known of the cluster. -/
  World : Type
  access : PodAccess World
  world : World
  /-- How long it takes from the end of the call before until this one begins. -/
  pause : ℕ
  /-- How long after this call begins the token is cancelled, if it is; with zero it was cancelled
  before. -/
  cancelAfter : Option ℕ

/-- One call of a campaign, and what it found. -/
structure Application : Type 1 where
  fleet : Fleet
  /-- When the token is cancelled, as far as that is settled. -/
  token : Option ℕ
  start : ℕ
  request : FaultRequest

namespace Application

variable (a : Application)

/-- What the call would leave behind if the fault were asked for in some way. -/
def roundOf (call : FaultCall) : Round a.request.World :=
  call.round a.fleet a.request.access a.request.duration a.token a.start a.request.world

/-- What would then be asked of the cluster. -/
def callsOf (call : FaultCall) : List Call :=
  (call.round a.fleet a.request.access.recorded a.request.duration a.token a.start
    (a.request.world, [])).world.2

def round : Round a.request.World := a.roundOf a.request.call

def calls : List Call := a.callsOf a.request.call

def result : Option (Except Failure Unit) := a.round.result

def spec : FaultSpec := a.request.call.spec

/-- The command of the fault, or its defect. -/
def command : Except Fault.Defect Command := a.spec.command a.request.duration

end Application

/-- The call of a request that comes when the call before is over. -/
def FaultRequest.begin (request : FaultRequest) (fleet : Fleet) (token : Option ℕ) (now : ℕ) :
    Application where
  fleet := fleet
  token := token.merge min (request.cancelAfter.map (now + request.pause + ·))
  start := now + request.pause
  request := request

/-- **The campaign of a fleet** under some requests, from a moment on. -/
def campaign : Fleet → Option ℕ → ℕ → List FaultRequest → List Application
  | _, _, _, [] => []
  | fleet, token, now, request :: requests =>
    let a := request.begin fleet token now
    a :: match a.round.ending with
      | .completed T | .cancelled T => campaign a.round.fleet a.token T requests
      | .never => []

/-! ## One call -/

namespace Application

variable {a : Application}

/-- All ways to ask for one fault leave the same behind and ask the same of the cluster. -/
theorem roundOf_eq {call : FaultCall} (h : call.spec = a.spec) :
    a.roundOf call = a.round ∧ a.callsOf call = a.calls := by
  unfold round calls roundOf callsOf
  rw [FaultCall.round_eq, FaultCall.round_eq, FaultCall.round_eq, FaultCall.round_eq, h]
  exact ⟨rfl, rfl⟩

theorem round_of_ok {c : Command} (h : a.command = .ok c) :
    a.round = a.fleet.exec a.request.access c a.token a.start a.request.world ∧
      a.calls = a.fleet.execCalls a.request.access c a.token a.start a.request.world := by
  have hspec : a.request.call.spec.command a.request.duration = .ok c := h
  unfold round calls roundOf callsOf
  rw [FaultCall.round_eq, FaultCall.round_eq, hspec]
  exact ⟨rfl, rfl⟩

theorem round_of_error {defect : Fault.Defect} (h : a.command = .error defect) :
    a.round = ⟨a.fleet, a.request.world, .completed a.start,
        some (.error (.fault defect.message))⟩ ∧
      a.calls = [] := by
  have hspec : a.request.call.spec.command a.request.duration = .error defect := h
  unfold round calls roundOf callsOf
  rw [FaultCall.round_eq, FaultCall.round_eq, hspec]
  exact ⟨rfl, rfl⟩

/-- A call leaves the fleet as it is. -/
theorem fleet_round (a : Application) : a.round.fleet = a.fleet := by
  cases h : a.command with
  | ok c => rw [(round_of_ok h).1, Fleet.fleet_exec]
  | error defect => rw [(round_of_error h).1]

/-- A call that begins after the cancellation asks nothing of the cluster. -/
theorem result_of_le {c : Command} (h : a.command = .ok c) {t : ℕ} (htoken : a.token = some t)
    (hle : t ≤ a.start) :
    a.calls = [] ∧ a.result = some (.error
      (if a.fleet.injected = [] then .noTargets a.request.access.scope
      else .cancelled Fleet.executionStage)) := by
  obtain ⟨hround, hcalls⟩ := round_of_ok h
  rw [result, hround, hcalls, htoken]
  by_cases hnil : a.fleet.injected = []
  · rw [if_pos hnil, Fleet.exec_of_nil hnil, Fleet.execCalls_of_nil hnil]
    exact ⟨rfl, rfl⟩
  · -- The fan-out is over before its first pod starts.
    have hexecution : a.fleet.execution a.request.access c (some t) a.start a.request.world =
        ⟨a.request.world, .cancelled a.start, []⟩ := if_pos (decide_eq_true hle)
    rw [if_neg hnil, Fleet.execCalls_eq hnil, hexecution,
      Fleet.exec_of_cancelled hnil (congrArg Outcome.ending hexecution)]
    exact ⟨rfl, rfl⟩

end Application

/-! ## Every call -/

/-- If there is a first moment, there is a second one that is no later. -/
def NoLater (first second : Option ℕ) : Prop := ∀ t, first = some t → ∃ t' ≤ t, second = some t'

theorem NoLater.trans {first second third : Option ℕ} (h : NoLater first second)
    (h' : NoLater second third) : NoLater first third := by
  intro t ht
  obtain ⟨t', hle, ht'⟩ := h t ht
  obtain ⟨t'', hle', ht''⟩ := h' t' ht'
  exact ⟨t'', hle'.trans hle, ht''⟩

theorem noLater_merge (first other : Option ℕ) : NoLater first (first.merge min other) := by
  rintro t rfl
  cases other with
  | none => exact ⟨t, le_rfl, rfl⟩
  | some t' => exact ⟨min t t', Nat.min_le_left t t', rfl⟩

section

variable {fleet : Fleet} {token : Option ℕ} {now : ℕ}

/-- The first call leaves the fleet to the others as it was. -/
theorem campaign_cons (fleet : Fleet) (token : Option ℕ) (now : ℕ) (request : FaultRequest)
    (requests : List FaultRequest) : campaign fleet token now (request :: requests) =
      request.begin fleet token now :: match (request.begin fleet token now).round.ending with
        | .completed T | .cancelled T =>
          campaign fleet (request.begin fleet token now).token T requests
        | .never => [] := by
  have hfleet : (request.begin fleet token now).round.fleet = fleet := Application.fleet_round _
  rw [campaign, hfleet]

/-- Every call of a campaign finds the fleet as it was, and a cancellation that is no later. -/
theorem found_of_mem {requests : List FaultRequest} {a : Application}
    (h : a ∈ campaign fleet token now requests) : a.fleet = fleet ∧ NoLater token a.token := by
  -- The calls that follow are a campaign again, which starts with the token of this call.
  induction requests generalizing token now with
  | nil => cases h
  | cons request requests ih =>
      rw [campaign_cons] at h
      have htoken : NoLater token (request.begin fleet token now).token := noLater_merge _ _
      rcases List.mem_cons.mp h with rfl | hrest
      · exact ⟨rfl, htoken⟩
      · split at hrest
        · exact ⟨(ih hrest).1, htoken.trans (ih hrest).2⟩
        · exact ⟨(ih hrest).1, htoken.trans (ih hrest).2⟩
        · cases hrest

/-- Of two calls of a campaign the later one finds a cancellation that is no later. -/
theorem pairwise_noLater (fleet : Fleet) (token : Option ℕ) (now : ℕ)
    (requests : List FaultRequest) :
    (campaign fleet token now requests).Pairwise fun u a => NoLater u.token a.token := by
  induction requests generalizing token now with
  | nil => exact .nil
  | cons request requests ih =>
      rw [campaign_cons]
      split
      · exact .cons (fun a ha => (found_of_mem ha).2) (ih _ _)
      · exact .cons (fun a ha => (found_of_mem ha).2) (ih _ _)
      · exact List.pairwise_singleton _ _

end

/-- What holds of a call after those before it. -/
structure Application.Lawful (fleet : Fleet) (past : List Application) (a : Application) :
    Prop where
  /-- The pods that it is for are the same before and afterwards. -/
  targets : a.fleet.injected = fleet.injected ∧ a.round.fleet.injected = fleet.injected
  /-- It goes like each other way to ask for the fault, by its description or by its protocol. -/
  anyWay : ∀ call : FaultCall, call.spec = a.spec →
    a.roundOf call = a.round ∧ a.callsOf call = a.calls
  /-- It goes like carrying out the command of the fault. -/
  carriedOut : ∀ c, a.command = .ok c →
    a.round = a.fleet.exec a.request.access c a.token a.start a.request.world ∧
      a.calls = a.fleet.execCalls a.request.access c a.token a.start a.request.world
  /-- A defect is the result, and then nothing is asked of the cluster. -/
  refused : ∀ defect, a.command = .error defect →
    a.result = some (.error (.fault defect.message)) ∧ a.calls = []
  /-- Once the token is cancelled nothing is asked of the cluster. -/
  revoked : ∀ u ∈ past ++ [a], ∀ t, u.token = some t → t ≤ a.start →
    ∀ c, a.command = .ok c → a.calls = [] ∧ a.result = some (.error
      (if fleet.injected = [] then .noTargets a.request.access.scope
      else .cancelled Fleet.executionStage))

/-- **Campaigns are lawful.**  Every call for a fault is for the same pods, does the same in each of
the ways to ask for the fault, and is refused without a call for a defect first, for want of pods
next, and for a cancellation that came before. -/
theorem lawful_of_campaign {fleet : Fleet} {token : Option ℕ} {now : ℕ}
    {requests : List FaultRequest} {past rest : List Application} {a : Application}
    (h : campaign fleet token now requests = past ++ a :: rest) : a.Lawful fleet past := by
  have hfleet : a.fleet = fleet :=
    (found_of_mem (h ▸ List.mem_append_right past List.mem_cons_self)).1
  -- The cancellation that an earlier call has found can only have come closer since.
  have htokens : ∀ u ∈ past ++ [a], NoLater u.token a.token := by
    have hpairwise := pairwise_noLater fleet token now requests
    rw [h, List.pairwise_append] at hpairwise
    intro u hu
    rcases List.mem_append.mp hu with hpast | hlast
    · exact hpairwise.2.2 u hpast a List.mem_cons_self
    · rw [List.mem_singleton.mp hlast]
      exact fun t ht => ⟨t, le_rfl, ht⟩
  constructor
  case targets =>
    rw [Application.fleet_round, hfleet]
    exact ⟨rfl, rfl⟩
  case anyWay => exact fun call hspec => Application.roundOf_eq hspec
  case carriedOut => exact fun c hc => Application.round_of_ok hc
  case refused =>
    intro defect hdefect
    obtain ⟨hround, hcalls⟩ := Application.round_of_error hdefect
    rw [Application.result, hround]
    exact ⟨rfl, hcalls⟩
  case revoked =>
    intro u hu t ht hle c hc
    obtain ⟨t', hle', ht'⟩ := htokens u hu t ht
    rw [← hfleet]
    exact Application.result_of_le hc ht' (hle'.trans hle)

/-- A fleet of two pods that both have the agent. -/
def readyFleet : Fleet := ⟨[⟨"a", .injected⟩, ⟨"b", .injected⟩], .usual, "agent"⟩

/-- A call for a fault that only delays requests, which is made by its description. -/
def delayRequest : FaultRequest where
  call := .described (.grpc ⟨.ofMillis 100, .zero, .zero, 0, "", [], 0⟩ ⟨0, ""⟩)
  duration := .ofSecs 1
  World := Unit
  access := slowRefusals
  world := ()
  pause := 0
  cancelAfter := none

/-- A call for an HTTP fault that comes after the cancellation of the token. -/
def lateRequest : FaultRequest where
  call := .http ⟨.ofMillis 100, .zero, .zero, 0, "", [], 0⟩ ⟨0, ""⟩
  duration := .ofSecs 1
  World := Unit
  access := slowRefusals
  world := ()
  pause := 5
  cancelAfter := some 0

theorem campaign_late : campaign readyFleet none 0 [delayRequest, lateRequest] =
    [⟨readyFleet, none, 0, delayRequest⟩] ++ ⟨readyFleet, some 8, 8, lateRequest⟩ :: [] := by
  have hfirst : (delayRequest.begin readyFleet none 0).round.ending = .completed 3 := by
    decide +kernel
  have hsecond : (lateRequest.begin readyFleet none 3).round.ending = .cancelled 8 := by
    decide +kernel
  rw [campaign_cons, hfirst]
  show _ :: campaign readyFleet none 3 [lateRequest] = _
  rw [campaign_cons, hsecond]
  rfl

/-- The first call runs its command, and the second one comes too late. -/
theorem lawful_late : ∃ past a, campaign readyFleet none 0 [delayRequest, lateRequest] =
    past ++ a :: [] ∧ a.Lawful readyFleet past ∧ past.map (·.result) = [some (.ok ())] ∧
      a.calls = [] ∧ a.result = some (.error (.cancelled Fleet.executionStage)) := by
  have hlawful := lawful_of_campaign campaign_late
  have hcommand : (lateRequest.begin readyFleet none 3).command =
      .ok ⟨.http, [(.duration, "1s"), (.averageDelay, "100ms"), (.delayVariation, "0s")]⟩ := by
    decide +kernel
  obtain ⟨hcalls, hresult⟩ :=
    hlawful.revoked _ (List.mem_append_right _ (List.mem_singleton_self _)) 8 rfl le_rfl _ hcommand
  exact ⟨_, _, campaign_late, hlawful, by decide +kernel, hcalls, hresult⟩

end FaultInjection

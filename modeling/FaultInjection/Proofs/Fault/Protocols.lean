import FaultInjection.Proofs.Fault.Options
import FaultInjection.Proofs.Fault.Verdicts

/-!
# The two protocols side by side

Descriptions of a fault for the two protocols can agree in all that both have (`Twins`).  Then both
protocols accept them or both refuse them, except that HTTP asks for the code of an error, and their
commands differ in the word of the protocol and in the answer alone (`concordant_of_twins`).
-/

namespace FaultInjection

open Number Text

/-! ## Deleting flags -/

namespace Flag

variable {written? written'? : Flag → Option String} {flags : List Flag}

theorem pairs_congr (h : ∀ flag ∈ flags, written? flag = written'? flag) :
    pairs written? flags = pairs written'? flags := by
  apply List.filterMap_congr
  intro flag hflag
  rw [h flag hflag]

theorem pairs_eq_nil (h : ∀ flag ∈ flags, written? flag = none) : pairs written? flags = [] := by
  rw [pairs, List.filterMap_eq_nil_iff]
  intro flag hflag
  rw [h flag hflag, Option.map_none]

/-- Flags can be deleted before or after what is written for them is put down. -/
theorem filter_pairs (deleted : List Flag) :
    (pairs written? flags).filter (·.1 ∉ deleted) =
      pairs written? (flags.filter (· ∉ deleted)) := by
  induction flags with
  | nil => rfl
  | cons flag flags ih =>
      unfold pairs at ih ⊢
      cases h : written? flag with
      | none =>
          rw [List.filterMap_cons_none (by rw [h]; rfl), ih]
          by_cases hmem : flag ∈ deleted <;> simp [hmem, h]
      | some value =>
          rw [List.filterMap_cons_some (by rw [h]; rfl)]
          by_cases hmem : flag ∈ deleted <;> simpa [hmem, h] using ih

end Flag

namespace Command

/-- Flags with their values, without those of some names.  Each word at an even place is a flag,
and the word after it is its value, whatever that looks like. -/
def dropFlags (names : List String) : List String → List String
  | name :: value :: rest =>
    if name ∈ names then dropFlags names rest else name :: value :: dropFlags names rest
  | rest => rest

/-- The arguments without the flags of some names, which come after the program and the protocol. -/
def withoutFlags (names args : List String) : List String :=
  args.take 2 ++ dropFlags names (args.drop 2)

theorem dropFlags_optionArgs (deleted : List Flag) (options : List (Flag × String)) :
    dropFlags (deleted.map Flag.name) (optionArgs options) =
      optionArgs (options.filter (·.1 ∉ deleted)) := by
  induction options with
  | nil => rfl
  | cons o options ih =>
      have hname : o.1.name ∈ deleted.map Flag.name ↔ o.1 ∈ deleted :=
        List.mem_map_of_injective fun _ _ => Flag.name_injective
      rw [optionArgs_cons, dropFlags, ih]
      simp only [hname]
      by_cases hmem : o.1 ∈ deleted
      · rw [if_pos hmem, List.filter_cons_of_neg (by simpa using hmem)]
      · rw [if_neg hmem, List.filter_cons_of_pos (by simpa using hmem), optionArgs_cons]

theorem withoutFlags_args (c : Command) (deleted : List Flag) :
    withoutFlags (deleted.map Flag.name) c.args =
      program :: c.protocol.name :: optionArgs (c.options.filter (·.1 ∉ deleted)) := by
  rw [args_eq, withoutFlags, ← dropFlags_optionArgs]
  rfl

/-- The word after the program is that of the protocol. -/
theorem set_args (c : Command) (protocol : Protocol) :
    c.args.set 1 protocol.name = (Command.mk protocol c.options).args := rfl

end Command

/-! ## Twins -/

/-- Descriptions for both protocols that agree in all that both have. -/
structure Twins (f : HttpFault) (g : GrpcFault) : Prop where
  averageDelay : f.averageDelay = g.averageDelay
  delayVariation : f.delayVariation = g.delayVariation
  errorRate : f.errorRate = g.errorRate
  exclude : f.exclude = g.exclude
  port : f.port = g.port

/-- **Both protocols treat descriptions alike**, as far as they can. -/
structure Concordant (f : HttpFault) (g : GrpcFault) (duration : Duration)
    (options : ProxyOptions) : Prop where
  /-- What HTTP accepts is accepted by gRPC. -/
  accepted : ∀ c, f.command duration options = .ok c → ∃ c', g.command duration options = .ok c'
  /-- What gRPC refuses is refused by HTTP for the same reason. -/
  refused : ∀ defect, g.command duration options = .error defect →
    f.command duration options = .error defect
  /-- HTTP alone refuses an error without a code, and nothing else. -/
  codeless : ∀ c', g.command duration options = .ok c' → ∀ defect,
    f.command duration options = .error defect ↔
      defect = .noErrorCode ∧ f.errorRate.Positive ∧ f.errorCode = 0
  /-- Without the flags of the answer, and with the word of the other protocol, the arguments are
  the same. -/
  args : ∀ c c', f.command duration options = .ok c → g.command duration options = .ok c' →
    Command.withoutFlags ["-e", "-b"] (c.args.set 1 "grpc") =
      Command.withoutFlags ["-s", "-m"] c'.args

namespace Twins

variable {f : HttpFault} {g : GrpcFault}

/-- Only the code can make a difference to what is said of twins. -/
theorem defect?_eq (h : Twins f g) (duration : Duration) (options : ProxyOptions) :
    (FaultSpec.http f options).toFault.defect? duration =
      ((FaultSpec.grpc g options).toFault.defect? duration).or
        (if f.errorRate.isPositive && f.errorCode == 0 then some .noErrorCode else none) := by
  rw [Fault.defect?_eq, Fault.defect?_eq]
  simp only [FaultSpec.toFault, h.averageDelay, h.delayVariation, h.errorRate, h.exclude]
  cases commonDefect? duration g.errorRate g.averageDelay g.delayVariation g.exclude <;> rfl

/-- What is written for a flag is the same for twins, the flags of the answer apart. -/
theorem written?_eq (h : Twins f g) (duration : Duration) (options : ProxyOptions) {flag : Flag}
    (hflag : flag ∉ [.errorCode, .errorBody, .status, .message]) :
    (FaultSpec.http f options).toFault.written? duration flag =
      (FaultSpec.grpc g options).toFault.written? duration flag := by
  obtain ⟨_, _, _, _, _, _, _⟩ := f
  obtain ⟨_, _, _, _, _, _, _⟩ := g
  obtain ⟨rfl, rfl, rfl, rfl, rfl⟩ := h
  cases flag with
  | errorCode | errorBody | status | message => simp at hflag
  | _ => rfl

/-- The flags of twins are the same without those of the answer. -/
theorem filter_options (h : Twins f g) (duration : Duration) (options : ProxyOptions) :
    ((FaultSpec.http f options).toFault.options duration).filter
        (·.1 ∉ [.errorCode, .errorBody]) =
      ((FaultSpec.grpc g options).toFault.options duration).filter
        (·.1 ∉ [.status, .message]) := by
  have hhttp : Flag.pairs ((FaultSpec.http f options).toFault.written? duration)
      [.status, .message] = [] := by
    apply Flag.pairs_eq_nil
    simp only [List.forall_mem_cons]
    exact ⟨ite_self none, ite_self none, List.forall_mem_nil _⟩
  have hgrpc : Flag.pairs ((FaultSpec.grpc g options).toFault.written? duration)
      [.errorCode, .errorBody] = [] := by
    apply Flag.pairs_eq_nil
    simp only [List.forall_mem_cons]
    exact ⟨ite_self none, ite_self none, List.forall_mem_nil _⟩
  -- Each list holds the flags that the other protocol has for its answer, but none is written.
  have hleft : Flag.all.filter (· ∉ [Flag.errorCode, .errorBody]) =
      [.duration, .averageDelay, .delayVariation, .errorRate] ++ [.status, .message]
        ++ [.port, .exclude, .proxyPort, .iface] := by decide
  have hright : Flag.all.filter (· ∉ [Flag.status, .message]) =
      [.duration, .averageDelay, .delayVariation, .errorRate] ++ [.errorCode, .errorBody]
        ++ [.port, .exclude, .proxyPort, .iface] := by decide
  have hsame : ∀ flags : List Flag,
      (∀ flag ∈ flags, flag ∉ [Flag.errorCode, .errorBody, .status, .message]) →
      Flag.pairs ((FaultSpec.http f options).toFault.written? duration) flags =
        Flag.pairs ((FaultSpec.grpc g options).toFault.written? duration) flags := by
    intro flags hflags
    apply Flag.pairs_congr
    intro flag hflag
    exact h.written?_eq duration options (hflags flag hflag)
  rw [Fault.options_eq_pairs, Fault.options_eq_pairs, Flag.filter_pairs, Flag.filter_pairs, hleft,
    hright]
  rw [Flag.pairs_append, Flag.pairs_append, Flag.pairs_append, Flag.pairs_append, hhttp, hgrpc,
    hsame [.duration, .averageDelay, .delayVariation, .errorRate] (by decide),
    hsame [.port, .exclude, .proxyPort, .iface] (by decide)]

end Twins

open Fault

/-- **The two protocols do not drift apart**: descriptions that agree in all that both have are
treated alike. -/
theorem concordant_of_twins {f : HttpFault} {g : GrpcFault} (h : Twins f g) (duration : Duration)
    (options : ProxyOptions) : Concordant f g duration options := by
  have hdefect := h.defect?_eq duration options
  have hhttp : f.command duration options = (FaultSpec.http f options).toFault.command duration :=
    FaultSpec.command_eq (.http f options) duration
  have hgrpc : g.command duration options = (FaultSpec.grpc g options).toFault.command duration :=
    FaultSpec.command_eq (.grpc g options) duration
  have hcode : (f.errorRate.isPositive && f.errorCode == 0) = true ↔
      f.errorRate.Positive ∧ f.errorCode = 0 := by
    rw [Bool.and_eq_true, Binary64.isPositive_iff, beq_iff_eq]
  constructor
  · intro c hc
    rw [hhttp, command_eq_ok_iff, hdefect, Option.or_eq_none_iff] at hc
    exact ⟨_, hgrpc.trans (command_eq_ok_iff.mpr ⟨hc.1.1, rfl⟩)⟩
  · intro defect hc
    rw [hgrpc, command_eq_error_iff] at hc
    rw [hhttp, command_eq_error_iff, hdefect, hc, Option.some_or]
  · intro c' hc' defect
    rw [hgrpc, command_eq_ok_iff] at hc'
    rw [hhttp, command_eq_error_iff, hdefect, hc'.1, Option.none_or, Option.ite_none_right_eq_some,
      hcode, Option.some.injEq, and_comm, eq_comm]
  · intro c c' hc hc'
    rw [hhttp, command_eq_ok_iff] at hc
    rw [hgrpc, command_eq_ok_iff] at hc'
    obtain ⟨-, rfl⟩ := hc
    obtain ⟨-, rfl⟩ := hc'
    show Command.withoutFlags ([Flag.errorCode, .errorBody].map Flag.name)
        ((Command.mk .http ((FaultSpec.http f options).toFault.options duration)).args.set 1
          Protocol.grpc.name) =
      Command.withoutFlags ([Flag.status, .message].map Flag.name)
        (Command.mk .grpc ((FaultSpec.grpc g options).toFault.options duration)).args
    rw [Command.set_args, Command.withoutFlags_args, Command.withoutFlags_args,
      h.filter_options duration options]

/-- A fault of HTTP requests with texts that look like flags of an answer. -/
def flaggedHttp : HttpFault where
  averageDelay := .ofMillis 100
  delayVariation := .ofMillis 10
  errorRate := .ofDecimal false 5 (-1)
  errorCode := 500
  errorBody := "-m"
  exclude := ["-s", "-e"]
  port := 80

/-- The same fault of gRPC requests. -/
def flaggedGrpc : GrpcFault where
  averageDelay := flaggedHttp.averageDelay
  delayVariation := flaggedHttp.delayVariation
  errorRate := flaggedHttp.errorRate
  statusCode := -1
  statusMessage := "-b"
  exclude := flaggedHttp.exclude
  port := flaggedHttp.port

/-- The command that applies one of them for a second at the interface `-b`. -/
def flaggedCommand (protocol : Protocol) (answer : List (Flag × String)) : Command where
  protocol := protocol
  options := [(.duration, "1s"), (.averageDelay, "100ms"), (.delayVariation, "10ms"),
    (.errorRate, "0.5")] ++ answer ++ [(.port, "80"), (.exclude, "-s,-e"), (.iface, "-b")]

/-- The texts stay where only the flags of the answer are deleted, and without a code only the fault
of HTTP requests is refused. -/
theorem flagged_concordant :
    Command.withoutFlags ["-e", "-b"] ((flaggedCommand .http
        [(.errorCode, "500"), (.errorBody, "-m")]).args.set 1 "grpc") =
      Command.withoutFlags ["-s", "-m"] (flaggedCommand .grpc
        [(.status, "-1"), (.message, "-b")]).args ∧
    ({ flaggedHttp with errorCode := 0 } : HttpFault).command (.ofSecs 1) ⟨0, "-b"⟩ =
      .error .noErrorCode := by
  have hhttp : flaggedHttp.command (.ofSecs 1) ⟨0, "-b"⟩ =
      .ok (flaggedCommand .http [(.errorCode, "500"), (.errorBody, "-m")]) := by decide +kernel
  have hgrpc : flaggedGrpc.command (.ofSecs 1) ⟨0, "-b"⟩ =
      .ok (flaggedCommand .grpc [(.status, "-1"), (.message, "-b")]) := by decide +kernel
  have hrate : flaggedHttp.errorRate.Positive := (Binary64.isPositive_iff _).mp (by decide +kernel)
  have htwins : Twins flaggedHttp flaggedGrpc := ⟨rfl, rfl, rfl, rfl, rfl⟩
  have hcodeless : Twins { flaggedHttp with errorCode := 0 } flaggedGrpc :=
    ⟨rfl, rfl, rfl, rfl, rfl⟩
  have halike := concordant_of_twins htwins (.ofSecs 1) ⟨0, "-b"⟩
  have hrefused := concordant_of_twins hcodeless (.ofSecs 1) ⟨0, "-b"⟩
  exact ⟨halike.args _ _ hhttp hgrpc,
    (hrefused.codeless _ hgrpc .noErrorCode).mpr ⟨rfl, hrate, rfl⟩⟩

end FaultInjection

import FaultInjection.Fault.Command

/-!
# Faults by protocol

A fault can be described with the fields of its own protocol, beside the options of the proxy that
disturbs the requests. Each of the two protocols checks its description and writes its command flag
by flag. The result is the one of the common description (`FaultSpec.command_eq`).
-/

namespace FaultInjection

open Number Text

/-! ## Descriptions -/

/-- A fault of HTTP requests. -/
structure HttpFault where
  averageDelay : Duration
  delayVariation : Duration
  errorRate : Binary64
  /-- The status code of an error. -/
  errorCode : UInt16
  errorBody : String
  /-- The path starts that are left alone. -/
  exclude : List String
  port : UInt16
deriving DecidableEq, Repr

/-- A fault of gRPC requests. -/
structure GrpcFault where
  averageDelay : Duration
  delayVariation : Duration
  errorRate : Binary64
  /-- The status of an error. -/
  statusCode : Int32
  statusMessage : String
  /-- The service names that are left alone. -/
  exclude : List String
  port : UInt16
deriving DecidableEq, Repr

/-- The options of the proxy. -/
structure ProxyOptions where
  proxyPort : UInt16
  iface : String
deriving DecidableEq, Repr

/-- A fault of one of the protocols, with the options of its proxy. -/
inductive FaultSpec where
  | http (fault : HttpFault) (options : ProxyOptions)
  | grpc (fault : GrpcFault) (options : ProxyOptions)
deriving DecidableEq, Repr

namespace FaultSpec

/-- The common description of a fault. -/
def toFault : FaultSpec → Fault Duration
  | .http f options =>
    { averageDelay := f.averageDelay, delayVariation := f.delayVariation, errorRate := f.errorRate
      answer := .http f.errorCode f.errorBody, exclude := f.exclude, port := f.port
      proxyPort := options.proxyPort, iface := options.iface }
  | .grpc f options =>
    { averageDelay := f.averageDelay, delayVariation := f.delayVariation, errorRate := f.errorRate
      answer := .grpc f.statusCode f.statusMessage, exclude := f.exclude, port := f.port
      proxyPort := options.proxyPort, iface := options.iface }

/-- The description of a fault by its protocol. -/
def ofFault (f : Fault Duration) : FaultSpec :=
  let options : ProxyOptions := ⟨f.proxyPort, f.iface⟩
  match f.answer with
  | .http code body =>
    .http ⟨f.averageDelay, f.delayVariation, f.errorRate, code, body, f.exclude, f.port⟩ options
  | .grpc status message =>
    .grpc ⟨f.averageDelay, f.delayVariation, f.errorRate, status, message, f.exclude, f.port⟩
      options

/-- Nothing is lost from one description to the other. -/
theorem toFault_ofFault (f : Fault Duration) : (ofFault f).toFault = f := by
  obtain ⟨_, _, _, answer, _, _, _, _⟩ := f
  cases answer <;> rfl

end FaultSpec

/-! ## Checks -/

/-- The first thing that is wrong with what both protocols have. -/
def commonDefect? (duration : Duration) (errorRate : Binary64)
    (averageDelay delayVariation : Duration) (exclude : List String) : Option Fault.Defect :=
  if duration = .zero then some .noDuration
  else if !errorRate.inUnitInterval then some (.errorRate errorRate)
  else if averageDelay < delayVariation then some (.variation delayVariation averageDelay)
  else (exclude.find? Fault.isBadEntry).map .excludeEntry

/-- A code that is missing is the last thing that can be wrong. -/
theorem Fault.defect?_eq (f : Fault Duration) (duration : Duration) :
    f.defect? duration =
      (commonDefect? duration f.errorRate f.averageDelay f.delayVariation f.exclude).or
        (if f.lacksCode then some .noErrorCode else none) := by
  unfold defect? commonDefect?
  split
  · rfl
  · split
    · rfl
    · split
      · rfl
      · cases f.exclude.find? isBadEntry <;> rfl

/-! ## Commands -/

namespace Command

/-- The command for a protocol that lasts for a duration. -/
def lasting (protocol : Protocol) (duration : Duration) : Command :=
  { protocol, options := [(.duration, duration.text)] }

/-- A command with one more flag. -/
def arg (c : Command) (flag : Flag) (value : String) : Command :=
  { c with options := c.options ++ [(flag, value)] }

/-- A command with the flags of the delays. -/
def withDelays (c : Command) (average variation : Duration) : Command :=
  if average = .zero then c
  else (c.arg .averageDelay average.text).arg .delayVariation variation.text

/-- A command with the flags of the errors: the rate, the code and the text, which can be empty. -/
def withErrors (c : Command) (rate : Binary64) (code text : Flag × String) : Command :=
  if rate.isPositive then
    let c := (c.arg .errorRate rate.text).arg code.1 code.2
    if text.2 = "" then c else c.arg text.1 text.2
  else c

/-- A command with the flags that say which requests are disturbed, and where. -/
def withPlace (c : Command) (port : UInt16) (exclude : List String) (options : ProxyOptions) :
    Command :=
  let c := if port = 0 then c else c.arg .port (decimalText port.toNat)
  let c := if exclude = [] then c else c.arg .exclude (withCommas exclude)
  let c :=
    if options.proxyPort = 0 then c else c.arg .proxyPort (decimalText options.proxyPort.toNat)
  if options.iface = "" then c else c.arg .iface options.iface

end Command

/-- The command that applies an HTTP fault. An error needs a code. -/
def HttpFault.command (f : HttpFault) (duration : Duration) (options : ProxyOptions) :
    Except Fault.Defect Command :=
  match commonDefect? duration f.errorRate f.averageDelay f.delayVariation f.exclude with
  | some defect => .error defect
  | none =>
    if f.errorRate.isPositive && f.errorCode == 0 then .error .noErrorCode
    else
      let c := (Command.lasting .http duration).withDelays f.averageDelay f.delayVariation
      let c := c.withErrors f.errorRate (.errorCode, decimalText f.errorCode.toNat)
        (.errorBody, f.errorBody)
      .ok (c.withPlace f.port f.exclude options)

/-- The command that applies a gRPC fault. Any status will do. -/
def GrpcFault.command (f : GrpcFault) (duration : Duration) (options : ProxyOptions) :
    Except Fault.Defect Command :=
  match commonDefect? duration f.errorRate f.averageDelay f.delayVariation f.exclude with
  | some defect => .error defect
  | none =>
    let c := (Command.lasting .grpc duration).withDelays f.averageDelay f.delayVariation
    let c := c.withErrors f.errorRate (.status, signedText f.statusCode.toInt)
      (.message, f.statusMessage)
    .ok (c.withPlace f.port f.exclude options)

/-- The command that applies a fault, as its protocol makes it. -/
def FaultSpec.command (spec : FaultSpec) (duration : Duration) : Except Fault.Defect Command :=
  match spec with
  | .http f options => f.command duration options
  | .grpc f options => f.command duration options

/-! ## One command -/

namespace Command

variable (c : Command) (f : Fault Duration)

theorem withDelays_eq : c.withDelays f.averageDelay f.delayVariation =
    { c with options := c.options ++ f.delayOptions } := by
  unfold withDelays Fault.delayOptions
  split <;> simp [arg]

theorem withErrors_eq {code text : Flag × String}
    (h : f.answer.options = code :: if text.2 = "" then [] else [text]) :
    c.withErrors f.errorRate code text = { c with options := c.options ++ f.errorOptions } := by
  unfold withErrors Fault.errorOptions
  rw [h]
  split
  · split <;> simp [arg]
  · simp

theorem withPlace_eq : c.withPlace f.port f.exclude ⟨f.proxyPort, f.iface⟩ =
    { c with
      options := c.options ++ Fault.portOption .port f.port
        ++ (if f.exclude = [] then [] else [(.exclude, withCommas f.exclude)])
        ++ Fault.portOption .proxyPort f.proxyPort ++ Fault.textOption .iface f.iface } := by
  unfold withPlace Fault.portOption Fault.textOption
  split <;> split <;> split <;> split <;> simp [arg]

/-- Flags that are added one by one are those of the whole fault. -/
theorem built_eq (duration : Duration) (code text : Flag × String)
    (h : f.answer.options = code :: if text.2 = "" then [] else [text]) :
    (((lasting f.protocol duration).withDelays f.averageDelay f.delayVariation).withErrors
        f.errorRate code text).withPlace f.port f.exclude ⟨f.proxyPort, f.iface⟩ =
      { protocol := f.protocol, options := f.options duration } := by
  rw [withDelays_eq, withErrors_eq _ f h, withPlace_eq]
  rfl

end Command

/-- **The protocol** of a fault makes the command of its common description. -/
theorem FaultSpec.command_eq (spec : FaultSpec) (duration : Duration) :
    spec.command duration = spec.toFault.command duration := by
  cases spec with
  | http f options =>
      have hcode : (http f options).toFault.lacksCode =
          (f.errorRate.isPositive && f.errorCode == 0) := rfl
      have hbuilt := Command.built_eq (http f options).toFault duration
        (.errorCode, decimalText f.errorCode.toNat) (.errorBody, f.errorBody) rfl
      rw [Fault.command, Fault.defect?_eq, hcode, ← hbuilt]
      show f.command duration options = _
      unfold HttpFault.command
      simp only [toFault]
      cases commonDefect? duration f.errorRate f.averageDelay f.delayVariation f.exclude with
      | some defect => rfl
      | none => cases f.errorRate.isPositive && f.errorCode == 0 <;> rfl
  | grpc f options =>
      have hcode : (grpc f options).toFault.lacksCode = false := rfl
      have hbuilt := Command.built_eq (grpc f options).toFault duration
        (.status, signedText f.statusCode.toInt) (.message, f.statusMessage) rfl
      rw [Fault.command, Fault.defect?_eq, hcode, ← hbuilt]
      show f.command duration options = _
      unfold GrpcFault.command
      simp only [toFault]
      cases commonDefect? duration f.errorRate f.averageDelay f.delayVariation f.exclude <;> rfl

end FaultInjection

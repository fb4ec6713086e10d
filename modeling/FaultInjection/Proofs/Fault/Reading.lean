import FaultInjection.Proofs.Fault.Defects
import FaultInjection.Proofs.Fault.Options
import FaultInjection.Proofs.Number.Reading
import FaultInjection.Proofs.Text.Pieces

/-!
# Arguments read back

The arguments of a command lose nothing of the fault.  They are read back in two steps: the name of
the program, the protocol and then flags with their values give the command (`read?_args`), and the
values of the command, with a flag that is missing standing for what is not set, give what the fault
asks of the agent (`demand?_of_command`).  Texts are taken as they are, also where they look like a
flag.  So two commands have the same arguments exactly if the faults do not differ in anything that
matters to the agent (`args_lossless`).
-/

namespace FaultInjection

open Number Text

/-! ## From arguments to a command -/

namespace Command

/-- The flags with their values, where each word at an even place is a flag. -/
def readOptions : List String → Option (List (Flag × String))
  | [] => some []
  | [_] => none
  | name :: value :: rest => do
    let flag ← Flag.ofName? name
    let options ← readOptions rest
    return (flag, value) :: options

/-- The command that some arguments are of. -/
def read? : List String → Option Command
  | name :: word :: rest =>
    if name = program then do
      let protocol ← Protocol.ofName? word
      let options ← readOptions rest
      return { protocol, options }
    else none
  | _ => none

theorem readOptions_optionArgs (options : List (Flag × String)) :
    readOptions (optionArgs options) = some options := by
  induction options with
  | nil => rfl
  | cons o options ih =>
      rw [optionArgs_cons, readOptions, Flag.ofName?_name, ih]
      rfl

/-- **Every command** is read back from its arguments, whatever the values are. -/
theorem read?_args (c : Command) : read? c.args = some c := by
  rw [args_eq, read?, if_pos rfl, Protocol.ofName?_name, readOptions_optionArgs]
  rfl

/-! ## From a command to what it asks -/

/-- The duration that stands with a flag. -/
def durationAt (c : Command) (flag : Flag) : Option Duration :=
  match c.options.lookup flag with
  | none => some .zero
  | some value => Duration.read? value

/-- The integer of a range that stands with a flag. -/
def integerAt (c : Command) (range : IntegerRange) (flag : Flag) : Option ℤ :=
  match c.options.lookup flag with
  | none => some 0
  | some value => (readInteger 10 range value.toList).toOption

/-- The port, or another number of that width, that stands with a flag. -/
def portAt (c : Command) (flag : Flag) : Option UInt16 :=
  (c.integerAt (.unsigned 16) flag).map fun n => UInt16.ofNat n.toNat

/-- The text that stands with a flag. -/
def textAt (c : Command) (flag : Flag) : String := (c.options.lookup flag).getD ""

/-- The texts between the commas of what stands with a flag. -/
def textsAt (c : Command) (flag : Flag) : List String :=
  match c.options.lookup flag with
  | none => []
  | some value => betweenCommas value

/-- The answer of the protocol of a command. -/
def answer? (c : Command) : Option Answer :=
  match c.protocol with
  | .http => (c.portAt .errorCode).map fun code => .http code (c.textAt .errorBody)
  | .grpc => (c.integerAt (.signed 32) .status).map fun status =>
      .grpc (Int32.ofInt status) (c.textAt .message)

end Command

/-- The error rate as it is written, with the answer; without the rate no request is to fail. -/
def Command.errors? (c : Command) : Option (Option (String × Answer)) :=
  match c.options.lookup .errorRate with
  | none => some none
  | some rate => c.answer?.map fun answer => some (rate, answer)

/-- What a command asks of the agent. -/
structure Demand where
  protocol : Protocol
  duration : Duration
  averageDelay : Duration
  delayVariation : Duration
  /-- The error rate as it is written, with the answer, if some requests are to fail. -/
  errors : Option (String × Answer)
  port : UInt16
  exclude : List String
  proxyPort : UInt16
  iface : String
deriving DecidableEq

/-- What a command asks, with a flag that is missing standing for what is not set. -/
def Command.demand? (c : Command) : Option Demand := do
  let duration ← c.durationAt .duration
  let averageDelay ← c.durationAt .averageDelay
  let delayVariation ← c.durationAt .delayVariation
  let errors ← c.errors?
  let port ← c.portAt .port
  let proxyPort ← c.portAt .proxyPort
  return {
    protocol := c.protocol, duration, averageDelay, delayVariation, errors, port
    exclude := c.textsAt .exclude, proxyPort, iface := c.textAt .iface }

/-- What some arguments ask of the agent. -/
def Demand.ofArgs? (args : List String) : Option Demand := (Command.read? args).bind (·.demand?)

namespace Fault

/-- What a fault that is to last for a duration asks of the agent. -/
def demand (f : Fault Duration) (duration : Duration) : Demand where
  protocol := f.protocol
  duration := duration
  averageDelay := f.averageDelay
  delayVariation := f.delayVariation
  errors := if f.errorRate.isPositive then some (f.errorRate.text, f.answer) else none
  port := f.port
  exclude := f.exclude
  proxyPort := f.proxyPort
  iface := f.iface

/-! ## Each value by itself -/

section

variable {f : Fault Duration} {duration : Duration} {c : Command}

/-- The command of a fault holds what is written for each flag. -/
theorem lookup_of_command (h : f.command duration = .ok c) (flag : Flag) :
    c.options.lookup flag = f.written? duration flag := by
  obtain ⟨-, rfl⟩ := command_eq_ok_iff.mp h
  exact lookup_options f duration flag

theorem durationAt_of_some {flag : Flag} {d : Duration} (h : c.options.lookup flag = some d.text) :
    c.durationAt flag = some d := by
  rw [Command.durationAt, h]
  exact Duration.read?_text d

theorem durationAt_of_none {flag : Flag} (h : c.options.lookup flag = none) :
    c.durationAt flag = some .zero := by
  rw [Command.durationAt, h]

theorem integerAt_of_some {flag : Flag} {range : IntegerRange} {n : ℤ} (hn : range.Contains n)
    (h : c.options.lookup flag = some (signedText n)) : c.integerAt range flag = some n := by
  have hread : readInteger 10 range (signedText n).toList = .ok n := by
    rw [signedText, String.toList_ofList, readInteger_signedDecimal hn]
  simp only [Command.integerAt, h, hread, Except.toOption]

theorem portAt_of_some {flag : Flag} {n : UInt16}
    (h : c.options.lookup flag = some (decimalText n.toNat)) : c.portAt flag = some n := by
  have hn : n.toNat < 2 ^ 16 := n.toNat_lt
  have hrange : (IntegerRange.unsigned 16).Contains n.toNat :=
    ⟨Int.natCast_nonneg _, Int.ofNat_le.mpr (Nat.le_pred_of_lt hn)⟩
  have hsame : decimalText n.toNat = signedText n.toNat := rfl
  rw [Command.portAt, integerAt_of_some hrange (hsame ▸ h), Option.map_some, Int.toNat_natCast,
    UInt16.ofNat_toNat]

/-- A port that is not set is read as zero, which stands for that. -/
theorem portAt_of_written {flag : Flag} {n : UInt16}
    (h : c.options.lookup flag = if n = 0 then none else some (decimalText n.toNat)) :
    c.portAt flag = some n := by
  by_cases hzero : n = 0
  · rw [if_pos hzero] at h
    rw [Command.portAt, Command.integerAt, h, hzero]
    rfl
  · rw [if_neg hzero] at h
    exact portAt_of_some h

theorem textAt_of_written {flag : Flag} {text : String}
    (h : c.options.lookup flag = if text = "" then none else some text) :
    c.textAt flag = text := by
  by_cases hempty : text = ""
  · rw [if_pos hempty] at h
    rw [Command.textAt, h, hempty]
    rfl
  · rw [if_neg hempty] at h
    rw [Command.textAt, h]
    rfl

/-- Where some requests are to fail, the answer is read back. -/
theorem answer?_of_command (h : f.command duration = .ok c)
    (hpositive : f.errorRate.isPositive = true) : c.answer? = some f.answer := by
  have hprotocol : c.protocol = f.answer.protocol := by
    obtain ⟨-, rfl⟩ := command_eq_ok_iff.mp h
    rfl
  have hlookup := lookup_of_command h
  rw [Command.answer?, hprotocol]
  cases hanswer : f.answer with
  | http code body =>
      have hcode : c.portAt .errorCode = some code := by
        apply portAt_of_some
        rw [hlookup, written?_of_isPositive hpositive (by decide), hanswer, Answer.written?]
      have hbody : c.textAt .errorBody = body := by
        apply textAt_of_written
        rw [hlookup, written?_of_isPositive hpositive (by decide), hanswer, Answer.written?]
      show (c.portAt .errorCode).map _ = _
      rw [hcode, hbody]
      rfl
  | grpc status message =>
      have hrange : (IntegerRange.signed 32).Contains status.toInt :=
        ⟨status.le_toInt, Int.le_sub_one_of_lt status.toInt_lt⟩
      have hstatus : c.integerAt (.signed 32) .status = some status.toInt := by
        apply integerAt_of_some hrange
        rw [hlookup, written?_of_isPositive hpositive (by decide), hanswer, Answer.written?]
      have hmessage : c.textAt .message = message := by
        apply textAt_of_written
        rw [hlookup, written?_of_isPositive hpositive (by decide), hanswer, Answer.written?]
      show (c.integerAt (.signed 32) .status).map _ = _
      rw [hstatus, hmessage, Option.map_some, Int32.ofInt_toInt]

/-- The entries are read back, since none of them holds a comma. -/
theorem textsAt_of_command (h : f.command duration = .ok c) : c.textsAt .exclude = f.exclude := by
  have hvalid : f.Valid duration := defect?_eq_none_iff.mp (command_eq_ok_iff.mp h).1
  rw [Command.textsAt, lookup_of_command h, written?]
  by_cases hnil : f.exclude = []
  · rw [if_pos hnil, hnil]
  · -- Of the conditions on a fault this needs the one on its entries.
    rw [if_neg hnil]
    exact betweenCommas_withCommas hnil fun entry hentry => (hvalid.entries entry hentry).2

/-! ## All values together -/

/-- **A command** asks exactly what the fault does. -/
theorem demand?_of_command (h : f.command duration = .ok c) :
    c.demand? = some (f.demand duration) := by
  have hvalid : f.Valid duration := defect?_eq_none_iff.mp (command_eq_ok_iff.mp h).1
  have hprotocol : c.protocol = f.protocol := by
    obtain ⟨-, rfl⟩ := command_eq_ok_iff.mp h
    rfl
  have hlookup := lookup_of_command h
  have hduration : c.durationAt .duration = some duration := durationAt_of_some (hlookup _)
  have haverage : c.durationAt .averageDelay = some f.averageDelay := by
    by_cases hzero : f.averageDelay = .zero
    · rw [hzero]
      exact durationAt_of_none ((hlookup _).trans (if_pos hzero))
    · exact durationAt_of_some ((hlookup _).trans (if_neg hzero))
  -- The variation is left out with the mean, and then it is nothing.
  have hvariation : c.durationAt .delayVariation = some f.delayVariation := by
    by_cases hzero : f.averageDelay = .zero
    · rw [hvalid.delayVariation_eq_zero hzero]
      exact durationAt_of_none ((hlookup _).trans (if_pos hzero))
    · exact durationAt_of_some ((hlookup _).trans (if_neg hzero))
  have herrors : c.errors? =
      some (if f.errorRate.isPositive then some (f.errorRate.text, f.answer) else none) := by
    rw [Command.errors?, hlookup, written?]
    by_cases hpositive : f.errorRate.isPositive = true
    · rw [if_pos hpositive, if_pos hpositive]
      show c.answer?.map _ = _
      rw [answer?_of_command h hpositive]
      rfl
    · rw [if_neg hpositive, if_neg hpositive]
  have hport : c.portAt .port = some f.port := portAt_of_written (hlookup _)
  have hproxy : c.portAt .proxyPort = some f.proxyPort := portAt_of_written (hlookup _)
  have hiface : c.textAt .iface = f.iface := textAt_of_written (hlookup _)
  rw [Command.demand?, hduration, haverage, hvariation, herrors, hport, hproxy, hprotocol,
    textsAt_of_command h, hiface]
  rfl

/-- So do its arguments, when they are read. -/
theorem ofArgs?_of_command (h : f.command duration = .ok c) :
    Demand.ofArgs? c.args = some (f.demand duration) := by
  rw [Demand.ofArgs?, Command.read?_args, Option.bind_some]
  exact demand?_of_command h

end

/-! ## Faults that ask for the same -/

/-- Two faults, each with its duration, that do not differ in anything that matters to the agent. -/
structure Alike (f : Fault Duration) (duration : Duration) (g : Fault Duration)
    (duration' : Duration) : Prop where
  protocol : f.protocol = g.protocol
  duration : duration = duration'
  averageDelay : f.averageDelay = g.averageDelay
  delayVariation : f.delayVariation = g.delayVariation
  /-- No request is to fail for either, or as many are for both. -/
  rate : f.errorRate.isPositive = false ∧ g.errorRate.isPositive = false ∨
    f.errorRate.isPositive = true ∧ g.errorRate.isPositive = true ∧
      f.errorRate.text = g.errorRate.text
  /-- Requests that fail are answered in the same way. -/
  answer : f.errorRate.isPositive = true → f.answer = g.answer
  port : f.port = g.port
  exclude : f.exclude = g.exclude
  proxyPort : f.proxyPort = g.proxyPort
  iface : f.iface = g.iface

section

variable {f g : Fault Duration} {duration duration' : Duration} {c c' : Command}

/-- Faults that ask for the same are alike. -/
theorem Alike.of_demand_eq (h : f.demand duration = g.demand duration') :
    f.Alike duration g duration' := by
  have herrors : (if f.errorRate.isPositive then some (f.errorRate.text, f.answer) else none) =
      if g.errorRate.isPositive then some (g.errorRate.text, g.answer) else none :=
    congrArg Demand.errors h
  -- The errors are there for both faults or for neither.
  have hboth : f.errorRate.isPositive = false ∧ g.errorRate.isPositive = false ∨
      f.errorRate.isPositive = true ∧ g.errorRate.isPositive = true ∧
        f.errorRate.text = g.errorRate.text ∧ f.answer = g.answer := by
    cases hf : f.errorRate.isPositive <;> cases hg : g.errorRate.isPositive <;>
      rw [hf, hg] at herrors
    · exact Or.inl ⟨rfl, rfl⟩
    · cases herrors
    · cases herrors
    · exact Or.inr ⟨rfl, rfl, Prod.mk.inj (Option.some.inj herrors)⟩
  refine ⟨congrArg Demand.protocol h, congrArg Demand.duration h, congrArg Demand.averageDelay h,
    congrArg Demand.delayVariation h, ?_, ?_, congrArg Demand.port h, congrArg Demand.exclude h,
    congrArg Demand.proxyPort h, congrArg Demand.iface h⟩
  · rcases hboth with hneither | ⟨hf, hg, htext, -⟩
    · exact Or.inl hneither
    · exact Or.inr ⟨hf, hg, htext⟩
  · intro hf
    rcases hboth with ⟨hno, -⟩ | ⟨-, -, -, hanswer⟩
    · rw [hf] at hno
      cases hno
    · exact hanswer

/-- What is written for a flag is the same for faults that are alike. -/
theorem Alike.written?_eq (h : f.Alike duration g duration') (flag : Flag) :
    f.written? duration flag = g.written? duration' flag := by
  have hpositive : f.errorRate.isPositive = g.errorRate.isPositive := by
    rcases h.rate with ⟨hf, hg⟩ | ⟨hf, hg, -⟩ <;> rw [hf, hg]
  -- The rate and the answer only matter where some requests are to fail.
  have hrate : f.errorRate.isPositive = true → f.errorRate.text = g.errorRate.text := by
    intro hf
    rcases h.rate with ⟨hno, -⟩ | ⟨-, -, htext⟩
    · rw [hf] at hno
      cases hno
    · exact htext
  have hanswer := h.answer
  cases flag <;> simp only [written?, h.duration, h.averageDelay, h.delayVariation, h.port,
    h.exclude, h.proxyPort, h.iface, ← hpositive]
  case errorRate =>
    split
    · next hf => rw [hrate hf]
    · rfl
  all_goals
    split
    · next hf => rw [hanswer hf]
    · rfl

theorem Alike.args_eq (h : f.Alike duration g duration') (hf : f.command duration = .ok c)
    (hg : g.command duration' = .ok c') : c.args = c'.args := by
  obtain ⟨-, rfl⟩ := command_eq_ok_iff.mp hf
  obtain ⟨-, rfl⟩ := command_eq_ok_iff.mp hg
  have hwritten : f.written? duration = g.written? duration' := funext h.written?_eq
  simp only [Command.args, options_eq_pairs, hwritten, h.protocol]

/-- **The arguments of a command lose nothing**: they are read back to what the fault asks of the
agent, so that they are the same for two faults exactly if the faults are alike. -/
theorem args_lossless (hf : f.command duration = .ok c) (hg : g.command duration' = .ok c') :
    Demand.ofArgs? c.args = some (f.demand duration) ∧
      (c.args = c'.args ↔ f.Alike duration g duration') := by
  refine ⟨ofArgs?_of_command hf, fun h => ?_, fun h => h.args_eq hf hg⟩
  have hsame : some (f.demand duration) = some (g.demand duration') := by
    rw [← ofArgs?_of_command hf, ← ofArgs?_of_command hg, h]
  exact Alike.of_demand_eq (Option.some.inj hsame)

end

/-- A fault whose texts look like flags. -/
def lookalike : Fault Duration where
  averageDelay := .ofMillis 100
  delayVariation := .ofMillis 10
  errorRate := .ofDecimal false 5 (-1)
  answer := .http 500 "-t"
  exclude := ["-p", "/health"]
  port := 80
  proxyPort := 0
  iface := "-x"

/-- The command that applies it for a second and a half. -/
def lookalikeCommand : Command where
  protocol := .http
  options := [(.duration, "1500ms"), (.averageDelay, "100ms"), (.delayVariation, "10ms"),
    (.errorRate, "0.5"), (.errorCode, "500"), (.errorBody, "-t"), (.port, "80"),
    (.exclude, "-p,/health"), (.iface, "-x")]

/-- The fault is read back as it is, and is told apart from the one without a body. -/
theorem lookalike_lossless :
    Demand.ofArgs? lookalikeCommand.args = some (lookalike.demand (.ofMillis 1500)) ∧
      ¬ lookalike.Alike (.ofMillis 1500) { lookalike with answer := .http 500 "" }
        (.ofMillis 1500) := by
  let silent : Fault Duration := { lookalike with answer := .http 500 "" }
  have hcommand : lookalike.command (.ofMillis 1500) = .ok lookalikeCommand := by decide +kernel
  have hsilent : silent.command (.ofMillis 1500) =
      .ok { lookalikeCommand with
        options := lookalikeCommand.options.filter (·.1 ≠ .errorBody) } := by decide +kernel
  obtain ⟨hread, hsame⟩ := args_lossless hcommand hsilent
  exact ⟨hread, fun h => absurd (hsame.mpr h) (by decide)⟩

end Fault

end FaultInjection

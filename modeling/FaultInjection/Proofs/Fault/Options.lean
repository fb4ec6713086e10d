import FaultInjection.Fault.Command
import Mathlib.Data.List.Basic

/-!
# What a command says

The flags of a command are told by what is written for each of them (`Fault.written?`): they stand
in one fixed order (`options_eq_pairs`), and looking a flag up gives what is written for it
(`lookup_options`).
-/

namespace FaultInjection

open Number Text

/-! ## Flags in order -/

namespace Flag

/-- All flags, in the order in which a command holds them. -/
def all : List Flag :=
  [.duration, .averageDelay, .delayVariation, .errorRate, .errorCode, .errorBody, .status, .message,
    .port, .exclude, .proxyPort, .iface]

theorem mem_all (flag : Flag) : flag ∈ all := by cases flag <;> decide

/-- The flag of a name. -/
def ofName? (name : String) : Option Flag := all.find? (·.name = name)

theorem ofName?_name (flag : Flag) : ofName? flag.name = some flag := by
  cases flag <;> decide

theorem name_injective {flag other : Flag} (h : flag.name = other.name) : flag = other := by
  have hsame : ofName? flag.name = ofName? other.name := congrArg ofName? h
  rw [ofName?_name, ofName?_name] at hsame
  exact Option.some.inj hsame

/-- The flags of a list for which something is written, with what is written. -/
def pairs (written? : Flag → Option String) (flags : List Flag) : List (Flag × String) :=
  flags.filterMap fun flag => (written? flag).map (flag, ·)

variable {written? : Flag → Option String} {flags flags' : List Flag} {flag : Flag} {value : String}

theorem pairs_append :
    pairs written? (flags ++ flags') = pairs written? flags ++ pairs written? flags' :=
  List.filterMap_append

theorem mem_pairs_iff :
    (flag, value) ∈ pairs written? flags ↔ flag ∈ flags ∧ written? flag = some value := by
  simp only [pairs, List.mem_filterMap, Option.map_eq_some_iff, Prod.mk.injEq]
  constructor
  · rintro ⟨other, hother, written, hwritten, rfl, rfl⟩
    exact ⟨hother, hwritten⟩
  · rintro ⟨hflag, hwritten⟩
    exact ⟨flag, hflag, value, hwritten, rfl, rfl⟩

theorem lookup_pairs : (pairs written? flags).lookup flag =
    if flag ∈ flags then written? flag else none := by
  induction flags with
  | nil => rfl
  | cons other flags ih =>
      unfold pairs at ih ⊢
      by_cases hsame : flag = other
      · subst hsame
        rw [if_pos List.mem_cons_self]
        cases h : written? flag with
        | none =>
            rw [List.filterMap_cons_none (by rw [h]; rfl), ih, h, ite_self]
        | some value =>
            rw [List.filterMap_cons_some (by rw [h]; rfl), List.lookup_cons_self]
      · have hmem : flag ∈ other :: flags ↔ flag ∈ flags := by simp [hsame]
        simp only [hmem]
        cases h : written? other with
        | none => rw [List.filterMap_cons_none (by rw [h]; rfl), ih]
        | some value =>
            rw [List.filterMap_cons_some (by rw [h]; rfl), List.lookup_cons, beq_false_of_ne hsame]
            exact ih

end Flag

namespace Command

/-- The arguments that flags with their values make. -/
def optionArgs (options : List (Flag × String)) : List String :=
  options.flatMap fun o => [o.1.name, o.2]

theorem optionArgs_cons (o : Flag × String) (options : List (Flag × String)) :
    optionArgs (o :: options) = o.1.name :: o.2 :: optionArgs options := rfl

theorem args_eq (c : Command) : c.args = program :: c.protocol.name :: optionArgs c.options := rfl

end Command

/-! ## What is written for a flag -/

/-- What is written for a flag of an answer. -/
def Answer.written? : Answer → Flag → Option String
  | .http code _, .errorCode => some (decimalText code.toNat)
  | .http _ body, .errorBody => if body = "" then none else some body
  | .grpc status _, .status => some (signedText status.toInt)
  | .grpc _ message, .message => if message = "" then none else some message
  | _, _ => none

namespace Fault

/-- What is written for a flag of a fault that is to last for a duration. -/
def written? (f : Fault Duration) (duration : Duration) : Flag → Option String
  | .duration => some duration.text
  | .averageDelay => if f.averageDelay = .zero then none else some f.averageDelay.text
  | .delayVariation => if f.averageDelay = .zero then none else some f.delayVariation.text
  | .errorRate => if f.errorRate.isPositive then some f.errorRate.text else none
  | .port => if f.port = 0 then none else some (decimalText f.port.toNat)
  | .exclude => if f.exclude = [] then none else some (withCommas f.exclude)
  | .proxyPort => if f.proxyPort = 0 then none else some (decimalText f.proxyPort.toNat)
  | .iface => if f.iface = "" then none else some f.iface
  | flag => if f.errorRate.isPositive then f.answer.written? flag else none

variable {f : Fault Duration} {duration : Duration}

/-- Where some requests are to fail, the flags of the answer are written as the answer says. -/
theorem written?_of_isPositive (hpositive : f.errorRate.isPositive = true) {flag : Flag}
    (h : flag ∈ [.errorCode, .errorBody, .status, .message]) :
    f.written? duration flag = f.answer.written? flag := by
  simp only [List.mem_cons, List.not_mem_nil, or_false] at h
  rcases h with rfl | rfl | rfl | rfl <;> exact if_pos hpositive

theorem delayOptions_eq_pairs (f : Fault Duration) (duration : Duration) :
    f.delayOptions = Flag.pairs (f.written? duration) [.averageDelay, .delayVariation] := by
  unfold delayOptions
  split <;> simp [Flag.pairs, written?, *]

theorem errorOptions_eq_pairs (f : Fault Duration) (duration : Duration) :
    f.errorOptions = Flag.pairs (f.written? duration)
      [.errorRate, .errorCode, .errorBody, .status, .message] := by
  unfold errorOptions
  split
  -- An answer has flags of its own protocol only, and the others are left out.
  · cases h : f.answer with
    | http code body =>
        by_cases hbody : body = "" <;>
          simp [Flag.pairs, written?, Answer.options, Answer.written?, *]
    | grpc status message =>
        by_cases hmessage : message = "" <;>
          simp [Flag.pairs, written?, Answer.options, Answer.written?, *]
  · simp [Flag.pairs, written?, *]

/-- **The flags of a fault**, in their order. -/
theorem options_eq_pairs (f : Fault Duration) (duration : Duration) :
    f.options duration = Flag.pairs (f.written? duration) Flag.all := by
  have hall : Flag.all = [Flag.duration] ++ [Flag.averageDelay, Flag.delayVariation]
      ++ [Flag.errorRate, Flag.errorCode, Flag.errorBody, Flag.status, Flag.message]
      ++ [Flag.port] ++ [Flag.exclude] ++ [Flag.proxyPort] ++ [Flag.iface] := rfl
  have hduration : [(Flag.duration, duration.text)] =
      Flag.pairs (f.written? duration) [.duration] := rfl
  have hport : portOption .port f.port = Flag.pairs (f.written? duration) [.port] := by
    unfold portOption
    split <;> simp [Flag.pairs, written?, *]
  have hexclude : (if f.exclude = [] then [] else [(Flag.exclude, withCommas f.exclude)]) =
      Flag.pairs (f.written? duration) [.exclude] := by
    split <;> simp [Flag.pairs, written?, *]
  have hproxy : portOption .proxyPort f.proxyPort =
      Flag.pairs (f.written? duration) [.proxyPort] := by
    unfold portOption
    split <;> simp [Flag.pairs, written?, *]
  have hiface : textOption .iface f.iface = Flag.pairs (f.written? duration) [.iface] := by
    unfold textOption
    split <;> simp [Flag.pairs, written?, *]
  rw [hall]
  simp only [Flag.pairs_append]
  rw [← hduration, ← delayOptions_eq_pairs, ← errorOptions_eq_pairs, ← hport, ← hexclude, ← hproxy,
    ← hiface, options, List.singleton_append]

/-- The value that stands with a flag is the one that is written for it. -/
theorem mem_options_iff {flag : Flag} {value : String} :
    (flag, value) ∈ f.options duration ↔ f.written? duration flag = some value := by
  rw [options_eq_pairs, Flag.mem_pairs_iff]
  exact and_iff_right (Flag.mem_all flag)

/-- Looking a flag up gives the value that is written for it. -/
theorem lookup_options (f : Fault Duration) (duration : Duration) (flag : Flag) :
    (f.options duration).lookup flag = f.written? duration flag := by
  rw [options_eq_pairs, Flag.lookup_pairs, if_pos (Flag.mem_all flag)]

end Fault

end FaultInjection

import FaultInjection.Experiment.Variables
import FaultInjection.Proofs.Labels.Grammar
import FaultInjection.Proofs.Number.Literals
import FaultInjection.Proofs.Results
import Mathlib.Logic.Function.Basic

/-!
# Experiments from variables, decided

A variable holds nothing, or a text that must spell something: a number of its kind (`Kind`),
labels, or the protocol.  What is asked of each is `Variable.Holds`, and what it is blamed for
otherwise is `Variable.Blames`; the kind of the error code hangs on the protocol.  The variables are
looked at in the order `Variable.order`, and the first that does not hold what is asked decides what
is reported (`errorOf?_ofVariables`).  If all of them do, they describe the experiment part by part
(`DescribedBy`).  All of this is `Decided`, and it holds of every assignment
(`ofVariables_decided`).
-/

namespace FaultInjection.Experiment

open Number Text

/-! ## Kinds of numbers -/

/-- A kind of number: how it is read, and the literals that spell it. -/
structure Kind (α : Type) where
  read : List Char → Except NumberFault α
  /-- A literal spells a number. -/
  Spells : List Char → α → Prop
  /-- Literals are read as what they spell, and nothing else is read. -/
  read_eq_ok_iff : ∀ s x, read s = .ok x ↔ Spells s x

/-- Whole numbers of a range, if each number of the range is one value of a type. -/
theorem readWhole_eq_ok_iff {α : Type} {range : IntegerRange} {convert : ℤ → α} {value : α → ℤ}
    (hconvert : ∀ x, convert (value x) = x)
    (hvalue : ∀ n, range.Contains n → value (convert n) = n) (s : List Char) (x : α) :
    readWhole range convert s = .ok x ↔ IntegerLiteral range s (value x) := by
  rw [← readInteger_eq_ok_iff, readWhole]
  cases h : readInteger 10 range s with
  | error fault => simp
  | ok n =>
      have hrange : range.Contains n := (readInteger_eq_ok_iff.mp h).contains
      simp only [Except.ok.injEq]
      constructor
      · rintro rfl
        exact (hvalue n hrange).symm
      · rintro rfl
        exact hconvert x

theorem toNat_ofNat_uInt64 {n : ℤ} (h : (IntegerRange.unsigned 64).Contains n) :
    ((UInt64.ofNat n.toNat).toNat : ℤ) = n := by
  have hrange : 0 ≤ n ∧ n ≤ 2 ^ 64 - 1 := h
  rw [UInt64.toNat_ofNat_of_lt' (by unfold UInt64.size; omega)]
  omega

theorem toNat_ofNat_uInt16 {n : ℤ} (h : (IntegerRange.unsigned 16).Contains n) :
    ((UInt16.ofNat n.toNat).toNat : ℤ) = n := by
  have hrange : 0 ≤ n ∧ n ≤ 2 ^ 16 - 1 := h
  rw [UInt16.toNat_ofNat_of_lt' (by unfold UInt16.size; omega)]
  omega

theorem toInt_ofInt_int64 {n : ℤ} (h : (IntegerRange.signed 64).Contains n) :
    (Int64.ofInt n).toInt = n := by
  have hrange : -2 ^ 63 ≤ n ∧ n ≤ 2 ^ 63 - 1 := h
  exact Int64.toInt_ofInt_of_le (by omega) (by omega)

theorem toInt_ofInt_int32 {n : ℤ} (h : (IntegerRange.signed 32).Contains n) :
    (Int32.ofInt n).toInt = n := by
  have hrange : -2 ^ 31 ≤ n ∧ n ≤ 2 ^ 31 - 1 := h
  exact Int32.toInt_ofInt_of_le (by omega) (by omega)

namespace Kind

/-- Numbers without sign, of sixty-four bits. -/
def uInt64 : Kind UInt64 where
  read := readUInt64
  Spells s x := IntegerLiteral (.unsigned 64) s x.toNat
  read_eq_ok_iff := readWhole_eq_ok_iff (fun x => by simp) fun _ => toNat_ofNat_uInt64

/-- Numbers without sign, of sixteen bits. -/
def uInt16 : Kind UInt16 where
  read := readUInt16
  Spells s x := IntegerLiteral (.unsigned 16) s x.toNat
  read_eq_ok_iff := readWhole_eq_ok_iff (fun x => by simp) fun _ => toNat_ofNat_uInt16

/-- Numbers of sixty-four bits. -/
def int64 : Kind Int64 where
  read := readInt64
  Spells s x := IntegerLiteral (.signed 64) s x.toInt
  read_eq_ok_iff := readWhole_eq_ok_iff (fun x => by simp) fun _ => toInt_ofInt_int64

/-- Numbers of thirty-two bits. -/
def int32 : Kind Int32 where
  read := readInt32
  Spells s x := IntegerLiteral (.signed 32) s x.toInt
  read_eq_ok_iff := readWhole_eq_ok_iff (fun x => by simp) fun _ => toInt_ofInt_int32

/-- Floating-point numbers. -/
def real : Kind Binary64 where
  read := readRate
  Spells := RealLiteral
  read_eq_ok_iff s x := by
    rw [← readBinary64_eq_some_iff, readRate]
    cases readBinary64 s <;> simp

end Kind

/-! ## Single variables -/

section

variable {α : Type} {vars : Variables} {name : String} {default x : α} {k : Kind α}

/-- A variable is unset or blank. -/
def Vacant (vars : Variables) (name : String) : Prop := ∀ raw ∈ vars name, Blank raw.toList

namespace Kind

/-- **A variable holds a number**, or nothing. -/
def Holds (k : Kind α) (vars : Variables) (name : String) : Prop :=
  Vacant vars name ∨ ∃ raw ∈ vars name, ∃ x, k.Spells (trim raw.toList) x

/-- **A variable gives a number**: what its trimmed text spells, or a default if there is none. -/
def Gives (k : Kind α) (vars : Variables) (name : String) (default x : α) : Prop :=
  Vacant vars name ∧ x = default ∨
    ¬ Vacant vars name ∧ ∃ raw ∈ vars name, k.Spells (trim raw.toList) x

/-- **A variable is blamed** for its text, which does not spell a number. -/
def Blames (k : Kind α) (vars : Variables) (name : String) (error : ConfigError) : Prop :=
  ∃ raw ∈ vars name, ∃ fault, k.read (trim raw.toList) = .error fault ∧
    error = .number name raw fault

end Kind

theorem numberOf_of_vacant (h : Vacant vars name) (read : List Char → Except NumberFault α) :
    numberOf read vars name default = .ok default := by
  unfold numberOf
  split
  · rfl
  · next raw hraw => rw [if_pos (trim_eq_nil_iff.mpr (h raw hraw))]

theorem numberOf_of_not_vacant (h : ¬ Vacant vars name) : ∃ raw, vars name = some raw ∧
    ∀ (read : List Char → Except NumberFault α) (default : α),
      numberOf read vars name default = (read (trim raw.toList)).mapError (.number name raw) := by
  simp only [Vacant, not_forall] at h
  obtain ⟨raw, hraw, hblank⟩ := h
  have hvars : vars name = some raw := hraw
  refine ⟨raw, hvars, fun read default => ?_⟩
  simp only [numberOf, hvars, if_neg (mt trim_eq_nil_iff.mp hblank)]

/-- What a variable gives is what is read from it. -/
theorem Kind.numberOf_eq_ok_iff (k : Kind α) : numberOf k.read vars name default = .ok x ↔
    k.Gives vars name default x := by
  by_cases h : Vacant vars name
  · simp [numberOf_of_vacant h, Kind.Gives, h, eq_comm]
  · obtain ⟨raw, hvars, hnumber⟩ := numberOf_of_not_vacant (α := α) h
    simp [hnumber, mapError_eq_ok_iff, k.read_eq_ok_iff, Kind.Gives, h, hvars]

theorem Kind.exists_numberOf_iff (k : Kind α) :
    (∃ x, numberOf k.read vars name default = .ok x) ↔ k.Holds vars name := by
  simp only [k.numberOf_eq_ok_iff, Kind.Gives, Kind.Holds]
  by_cases h : Vacant vars name
  · simp [h]
  · simp only [h, false_and, not_false_eq_true, true_and, false_or]
    tauto

/-- The variable is blamed where nothing is read from it. -/
theorem Kind.numberOf_eq_error_iff (k : Kind α) {error : ConfigError} :
    numberOf k.read vars name default = .error error ↔
      ¬ k.Holds vars name ∧ k.Blames vars name error := by
  have hholds : (∃ x, numberOf k.read vars name default = .ok x) ↔ k.Holds vars name :=
    k.exists_numberOf_iff
  rw [← hholds]
  by_cases h : Vacant vars name
  · simp [numberOf_of_vacant h]
  · obtain ⟨raw, hvars, hnumber⟩ := numberOf_of_not_vacant (α := α) h
    simp only [hnumber, mapError_eq_ok_iff, mapError_eq_error_iff, Kind.Blames, hvars,
      Option.mem_def, Option.some.injEq, exists_eq_left']
    constructor
    · rintro ⟨fault, hfault, rfl⟩
      exact ⟨by simp [hfault], fault, hfault, rfl⟩
    · exact And.right

end

variable {vars : Variables}

/-- A variable holds labels: all pieces of its text are pairs. -/
def HoldsLabels (vars : Variables) (name : String) : Prop :=
  ∀ piece ∈ pieces (textOf vars name).toList, Labels.IsPair piece

/-- A variable is blamed for the first piece that is no pair. -/
def BlamesLabels (vars : Variables) (name : String) (error : ConfigError) : Prop :=
  ∃ piece, FirstFailing Labels.IsPair (pieces (textOf vars name).toList) piece ∧
    error = .labels name (String.ofList piece)

theorem exists_labelsOf_iff {name : String} :
    (∃ labels, labelsOf vars name = .ok labels) ↔ HoldsLabels vars name := by
  simp only [labelsOf, mapError_eq_ok_iff, Labels.read_eq_ok_iff_forall, exists_and_left, exists_eq,
    and_true, HoldsLabels]

theorem labelsOf_eq_error_iff {name : String} {error : ConfigError} :
    labelsOf vars name = .error error ↔ BlamesLabels vars name error := by
  simp only [labelsOf, mapError_eq_error_iff, Labels.read, Labels.readPieces_eq_error_iff,
    BlamesLabels]
  constructor
  · rintro ⟨_, ⟨piece, hpiece, rfl⟩, rfl⟩
    exact ⟨piece, hpiece, rfl⟩
  · rintro ⟨piece, hpiece, rfl⟩
    exact ⟨_, ⟨piece, hpiece, rfl⟩, rfl⟩

/-- The protocol that is named. HTTP need not be named. -/
def NamesProtocol (vars : Variables) : Protocol → Prop
  | .http => vars "FAULT_PROTOCOL" = none ∨ vars "FAULT_PROTOCOL" = some "http"
  | .grpc => vars "FAULT_PROTOCOL" = some "grpc"

theorem protocolOf_eq_ok_iff {p : Protocol} : protocolOf vars = .ok p ↔ NamesProtocol vars p := by
  unfold protocolOf
  cases hvars : vars "FAULT_PROTOCOL" with
  | none => cases p <;> simp [NamesProtocol, hvars]
  | some name =>
      have hname : Protocol.ofName? name = some p ↔ NamesProtocol vars p := by
        rw [Protocol.ofName?_eq_some_iff]
        cases p <;> simp [NamesProtocol, hvars, Protocol.name]
      rw [← hname]
      cases hfound : Protocol.ofName? name <;> simp [hfound]

theorem protocolOf_eq_error_iff {error : ConfigError} : protocolOf vars = .error error ↔
    (¬ ∃ p, NamesProtocol vars p) ∧ ∃ name ∈ vars "FAULT_PROTOCOL", error = .protocol name := by
  simp only [← protocolOf_eq_ok_iff, protocolOf]
  cases hvars : vars "FAULT_PROTOCOL" with
  | none => simp
  | some name => cases hfound : Protocol.ofName? name <;> simp [hfound, eq_comm]

/-! ## All variables -/

/-- The variables that are looked at, of which each may be refused. -/
inductive Variable where
  | averageDelay
  | delayVariation
  | errorRate
  | port
  | proxyPort
  | protocol
  | errorCode
  | select
  | exclude
  | injectTimeout
  | duration
deriving DecidableEq, Repr

namespace Variable

/-- The variables in the order in which they are looked at. -/
def order : List Variable :=
  [.averageDelay, .delayVariation, .errorRate, .port, .proxyPort, .protocol, .errorCode, .select,
    .exclude, .injectTimeout, .duration]

theorem mem_order (v : Variable) : v ∈ order := by cases v <;> decide

/-- The name of a variable. -/
def name : Variable → String
  | .averageDelay => "AVERAGE_DELAY_MS"
  | .delayVariation => "DELAY_VARIATION_MS"
  | .errorRate => "ERROR_RATE"
  | .port => "TARGET_PORT"
  | .proxyPort => "PROXY_PORT"
  | .protocol => "FAULT_PROTOCOL"
  | .errorCode => "ERROR_CODE"
  | .select => "SELECT_LABELS"
  | .exclude => "EXCLUDE_LABELS"
  | .injectTimeout => "INJECT_TIMEOUT_SECS"
  | .duration => "FAULT_DURATION_SECS"

/-- **What is asked of a variable.**  The kind of the error code is that of the protocol. -/
def Holds (vars : Variables) (v : Variable) : Prop :=
  match v with
  | .averageDelay | .delayVariation | .duration => Kind.uInt64.Holds vars v.name
  | .errorRate => Kind.real.Holds vars v.name
  | .port | .proxyPort => Kind.uInt16.Holds vars v.name
  | .injectTimeout => Kind.int64.Holds vars v.name
  | .protocol => ∃ p, NamesProtocol vars p
  | .errorCode => (NamesProtocol vars .http → Kind.uInt16.Holds vars v.name) ∧
      (NamesProtocol vars .grpc → Kind.int32.Holds vars v.name)
  | .select | .exclude => HoldsLabels vars v.name

/-- The error of a variable that does not hold what is asked. -/
def Blames (vars : Variables) (v : Variable) (error : ConfigError) : Prop :=
  match v with
  | .averageDelay | .delayVariation | .duration => Kind.uInt64.Blames vars v.name error
  | .errorRate => Kind.real.Blames vars v.name error
  | .port | .proxyPort => Kind.uInt16.Blames vars v.name error
  | .injectTimeout => Kind.int64.Blames vars v.name error
  | .protocol => ∃ found ∈ vars v.name, error = .protocol found
  | .errorCode => (NamesProtocol vars .http ∧ Kind.uInt16.Blames vars v.name error) ∨
      (NamesProtocol vars .grpc ∧ Kind.int32.Blames vars v.name error)
  | .select | .exclude => BlamesLabels vars v.name error

end Variable

/-! ## One variable at a time -/

namespace Variable

/-- The error of a variable, as far as that variable goes. -/
def error? (vars : Variables) : Variable → Option ConfigError
  | .averageDelay => errorOf? (numberOf readUInt64 vars "AVERAGE_DELAY_MS" 0)
  | .delayVariation => errorOf? (numberOf readUInt64 vars "DELAY_VARIATION_MS" 0)
  | .errorRate => errorOf? (numberOf readRate vars "ERROR_RATE" .zero)
  | .port => errorOf? (numberOf readUInt16 vars "TARGET_PORT" 0)
  | .proxyPort => errorOf? (numberOf readUInt16 vars "PROXY_PORT" 0)
  | .protocol => errorOf? (protocolOf vars)
  | .errorCode =>
    match protocolOf vars with
    | .ok p => errorOf? (answerOf vars p)
    | .error _ => none
  | .select => errorOf? (labelsOf vars "SELECT_LABELS")
  | .exclude => errorOf? (labelsOf vars "EXCLUDE_LABELS")
  | .injectTimeout => errorOf? (numberOf readInt64 vars "INJECT_TIMEOUT_SECS" 0)
  | .duration => errorOf? (numberOf readUInt64 vars "FAULT_DURATION_SECS" defaultDurationSecs)

/-- The error that is found tells whether something holds, and what it is blamed for if not. -/
def Tells (found : Option ConfigError) (holds : Prop) (blames : ConfigError → Prop) : Prop :=
  (found = none ↔ holds) ∧ ∀ e, found = some e ↔ ¬ holds ∧ blames e

theorem tells_numberOf {α : Type} (k : Kind α) (name : String) (default : α) :
    Tells (errorOf? (numberOf k.read vars name default)) (k.Holds vars name)
      (k.Blames vars name) :=
  ⟨errorOf?_eq_none_iff.trans k.exists_numberOf_iff,
    fun _ => errorOf?_eq_some_iff.trans k.numberOf_eq_error_iff⟩

theorem tells_labelsOf (name : String) :
    Tells (errorOf? (labelsOf vars name)) (HoldsLabels vars name) (BlamesLabels vars name) := by
  refine ⟨errorOf?_eq_none_iff.trans exists_labelsOf_iff, fun e => ?_⟩
  rw [errorOf?_eq_some_iff, ← exists_labelsOf_iff, ← labelsOf_eq_error_iff]
  refine ⟨fun h => ⟨?_, h⟩, And.right⟩
  rw [h]
  simp

theorem tells_protocolOf :
    Tells (errorOf? (protocolOf vars)) (∃ p, NamesProtocol vars p)
      fun e => ∃ found ∈ vars "FAULT_PROTOCOL", e = .protocol found :=
  ⟨errorOf?_eq_none_iff.trans (exists_congr fun _ => protocolOf_eq_ok_iff),
    fun _ => errorOf?_eq_some_iff.trans protocolOf_eq_error_iff⟩

theorem tells_answerOf : Tells (error? vars .errorCode) (Variable.errorCode.Holds vars)
    (Variable.errorCode.Blames vars) := by
  have hhttp : Tells (errorOf? (numberOf readUInt16 vars "ERROR_CODE" 0)) _ _ :=
    tells_numberOf Kind.uInt16 "ERROR_CODE" 0
  have hgrpc : Tells (errorOf? (numberOf readInt32 vars "ERROR_CODE" 0)) _ _ :=
    tells_numberOf Kind.int32 "ERROR_CODE" 0
  unfold Tells at hhttp hgrpc ⊢
  simp only [error?, Holds, Blames, ← protocolOf_eq_ok_iff, name]
  cases protocolOf vars with
  | error _ => simp
  | ok p =>
      cases p with
      | http => simpa [answerOf, errorOf?_map] using hhttp
      | grpc => simpa [answerOf, errorOf?_map] using hgrpc

/-- **Each variable** is in order, or it is blamed. -/
theorem tells_error? (v : Variable) : Tells (v.error? vars) (v.Holds vars) (v.Blames vars) := by
  cases v with
  | averageDelay | delayVariation | duration => exact tells_numberOf Kind.uInt64 _ _
  | errorRate => exact tells_numberOf Kind.real _ _
  | port | proxyPort => exact tells_numberOf Kind.uInt16 _ _
  | injectTimeout => exact tells_numberOf Kind.int64 _ _
  | protocol => exact tells_protocolOf
  | errorCode => exact tells_answerOf
  | select | exclude => exact tells_labelsOf _

end Variable

/-- **The first variable** that is not in order decides what is reported. -/
theorem errorOf?_ofVariables (vars : Variables) :
    errorOf? (ofVariables vars) = Variable.order.findSome? (·.error? vars) := by
  have hcons : ∀ (v : Variable) (vs : List Variable),
      (v :: vs).findSome? (·.error? vars) = (v.error? vars).or (vs.findSome? (·.error? vars)) := by
    intro v vs
    rw [List.findSome?_cons]
    cases v.error? vars <;> rfl
  simp only [Variable.order, hcons, List.findSome?_nil]
  refine errorOf?_bind fun averageDelay _ => ?_
  refine errorOf?_bind fun delayVariation _ => ?_
  refine errorOf?_bind fun errorRate _ => ?_
  refine errorOf?_bind fun port _ => ?_
  refine errorOf?_bind fun proxyPort _ => ?_
  refine errorOf?_bind fun protocol hprotocol => ?_
  have hcode : Variable.errorCode.error? vars = errorOf? (answerOf vars protocol) := by
    rw [Variable.error?, hprotocol]
  rw [hcode]
  refine errorOf?_bind fun answer _ => ?_
  refine errorOf?_bind fun select _ => ?_
  refine errorOf?_bind fun exclude _ => ?_
  refine errorOf?_bind fun injectTimeout _ => ?_
  exact errorOf?_bind fun duration _ => rfl

/-! ## What an experiment is made of -/

/-- An answer that is named: its number is that of the protocol, and it has no text. -/
def NamesAnswer (vars : Variables) : Answer → Prop
  | .http code body =>
    NamesProtocol vars .http ∧ Kind.uInt16.Gives vars "ERROR_CODE" 0 code ∧ body = ""
  | .grpc status message =>
    NamesProtocol vars .grpc ∧ Kind.int32.Gives vars "ERROR_CODE" 0 status ∧ message = ""

/-- **An experiment is the one that variables describe**: each of its parts is given by the variable
for it, and what no variable is for is empty. -/
structure DescribedBy (vars : Variables) (e : Experiment) : Prop where
  scope : e.scope = (vars "TARGET_NAMESPACE").getD ""
  select : Labels.read ((vars "SELECT_LABELS").getD "") = .ok e.select
  exclude : Labels.read ((vars "EXCLUDE_LABELS").getD "") = .ok e.exclude
  injectTimeout : Kind.int64.Gives vars "INJECT_TIMEOUT_SECS" 0 e.injectTimeoutSecs
  agentImage : e.agentImage = (vars "AGENT_IMAGE").getD Agent.defaultImage
  duration : Kind.uInt64.Gives vars "FAULT_DURATION_SECS" 30 e.durationSecs
  averageDelay : Kind.uInt64.Gives vars "AVERAGE_DELAY_MS" 0 e.fault.averageDelay
  delayVariation : Kind.uInt64.Gives vars "DELAY_VARIATION_MS" 0 e.fault.delayVariation
  errorRate : Kind.real.Gives vars "ERROR_RATE" .zero e.fault.errorRate
  answer : NamesAnswer vars e.fault.answer
  left : e.fault.exclude = listed ((vars "EXCLUDE").getD "")
  port : Kind.uInt16.Gives vars "TARGET_PORT" 0 e.fault.port
  proxyPort : Kind.uInt16.Gives vars "PROXY_PORT" 0 e.fault.proxyPort
  iface : e.fault.iface = ""

theorem answerOf_eq_ok_iff {answer : Answer} :
    (∃ p, protocolOf vars = .ok p ∧ answerOf vars p = .ok answer) ↔ NamesAnswer vars answer := by
  have hhttp (code : UInt16) : numberOf readUInt16 vars "ERROR_CODE" 0 = .ok code ↔
      Kind.uInt16.Gives vars "ERROR_CODE" 0 code := Kind.uInt16.numberOf_eq_ok_iff
  have hgrpc (status : Int32) : numberOf readInt32 vars "ERROR_CODE" 0 = .ok status ↔
      Kind.int32.Gives vars "ERROR_CODE" 0 status := Kind.int32.numberOf_eq_ok_iff
  simp only [protocolOf_eq_ok_iff]
  constructor
  · rintro ⟨p, hp, hanswer⟩
    cases p with
    | http =>
        obtain ⟨code, hcode, rfl⟩ := map_eq_ok_iff.mp hanswer
        exact ⟨hp, (hhttp code).mp hcode, rfl⟩
    | grpc =>
        obtain ⟨status, hstatus, rfl⟩ := map_eq_ok_iff.mp hanswer
        exact ⟨hp, (hgrpc status).mp hstatus, rfl⟩
  · intro h
    cases answer with
    | http code body =>
        obtain ⟨hp, hcode, rfl⟩ := h
        exact ⟨.http, hp, map_eq_ok_iff.mpr ⟨code, (hhttp code).mpr hcode, rfl⟩⟩
    | grpc status message =>
        obtain ⟨hp, hstatus, rfl⟩ := h
        exact ⟨.grpc, hp, map_eq_ok_iff.mpr ⟨status, (hgrpc status).mpr hstatus, rfl⟩⟩

theorem labelsOf_eq_ok_iff {name : String} {labels : Labels} :
    labelsOf vars name = .ok labels ↔ Labels.read ((vars name).getD "") = .ok labels :=
  mapError_eq_ok_iff

/-- Variables that are accepted describe the experiment. -/
theorem ofVariables_eq_ok_iff {e : Experiment} : ofVariables vars = .ok e ↔ DescribedBy vars e := by
  constructor
  · intro h
    simp only [ofVariables, bind_eq_ok_iff] at h
    obtain ⟨averageDelay, haverage, delayVariation, hvariation, errorRate, hrate, port, hport,
      proxyPort, hproxy, protocol, hprotocol, answer, hanswer, select, hselect, exclude, hexclude,
      injectTimeout, htimeout, duration, hduration, he⟩ := h
    cases he
    exact {
      scope := rfl
      select := labelsOf_eq_ok_iff.mp hselect
      exclude := labelsOf_eq_ok_iff.mp hexclude
      injectTimeout := Kind.int64.numberOf_eq_ok_iff.mp htimeout
      agentImage := rfl
      duration := Kind.uInt64.numberOf_eq_ok_iff.mp hduration
      averageDelay := Kind.uInt64.numberOf_eq_ok_iff.mp haverage
      delayVariation := Kind.uInt64.numberOf_eq_ok_iff.mp hvariation
      errorRate := Kind.real.numberOf_eq_ok_iff.mp hrate
      answer := answerOf_eq_ok_iff.mp ⟨protocol, hprotocol, hanswer⟩
      left := rfl
      port := Kind.uInt16.numberOf_eq_ok_iff.mp hport
      proxyPort := Kind.uInt16.numberOf_eq_ok_iff.mp hproxy
      iface := rfl }
  · intro h
    obtain ⟨protocol, hprotocol, hanswer⟩ := answerOf_eq_ok_iff.mpr h.answer
    obtain ⟨scope, select, exclude, injectTimeout, image, duration, fault⟩ := e
    obtain ⟨averageDelay, delayVariation, errorRate, answer, left, port, proxyPort, iface⟩ := fault
    obtain ⟨rfl, hselect, hexclude, htimeout, rfl, hduration, haverage, hvariation, hrate, -, rfl,
      hport, hproxy, rfl⟩ := h
    simp only [ofVariables, bind_eq_ok_iff]
    exact ⟨averageDelay, Kind.uInt64.numberOf_eq_ok_iff.mpr haverage,
      delayVariation, Kind.uInt64.numberOf_eq_ok_iff.mpr hvariation,
      errorRate, Kind.real.numberOf_eq_ok_iff.mpr hrate,
      port, Kind.uInt16.numberOf_eq_ok_iff.mpr hport,
      proxyPort, Kind.uInt16.numberOf_eq_ok_iff.mpr hproxy,
      protocol, hprotocol, answer, hanswer,
      select, labelsOf_eq_ok_iff.mpr hselect, exclude, labelsOf_eq_ok_iff.mpr hexclude,
      injectTimeout, Kind.int64.numberOf_eq_ok_iff.mpr htimeout,
      duration, Kind.uInt64.numberOf_eq_ok_iff.mpr hduration, rfl⟩

/-! ## Blank variables -/

/-- The variables for which blanks are the same as nothing: all that are looked at except for the
protocol, and the list of what is left alone. -/
def blankable : List String :=
  "EXCLUDE" :: (Variable.order.filter (· ≠ .protocol)).map Variable.name

/-- Variables that differ at most in whether they are blank or unset, where that makes no
difference. -/
def Alike (vars vars' : Variables) : Prop :=
  ∀ name, vars name = vars' name ∨ name ∈ blankable ∧ Vacant vars name ∧ Vacant vars' name

theorem pieces_of_blank {s : List Char} (h : Blank s) : pieces s = [] := by
  have hcomma : ',' ∉ s := fun hmem => by cases h _ hmem
  rw [pieces_of_not_mem hcomma, trim_eq_nil_iff.mpr h]
  rfl

theorem pieces_textOf_of_vacant {name : String} (h : Vacant vars name) :
    pieces (textOf vars name).toList = [] := by
  refine pieces_of_blank ?_
  unfold textOf
  cases hvars : vars name with
  | none => exact fun _ hmem => absurd hmem List.not_mem_nil
  | some raw => exact h raw hvars

namespace Alike

variable {vars' : Variables} (h : Alike vars vars')

include h

theorem numberOf_eq {α : Type} (read : List Char → Except NumberFault α) (name : String)
    (default : α) : numberOf read vars name default = numberOf read vars' name default := by
  rcases h name with heq | ⟨-, hvars, hvars'⟩
  · simp only [numberOf, heq]
  · rw [numberOf_of_vacant hvars, numberOf_of_vacant hvars']

theorem pieces_eq (name : String) :
    pieces (textOf vars name).toList = pieces (textOf vars' name).toList := by
  rcases h name with heq | ⟨-, hvars, hvars'⟩
  · simp only [textOf, heq]
  · rw [pieces_textOf_of_vacant hvars, pieces_textOf_of_vacant hvars']

theorem labelsOf_eq (name : String) : labelsOf vars name = labelsOf vars' name := by
  simp only [labelsOf, Labels.read, h.pieces_eq]

theorem listed_eq (name : String) : listed (textOf vars name) = listed (textOf vars' name) := by
  simp only [listed, h.pieces_eq]

theorem eq_of_not_mem {name : String} (hname : name ∉ blankable) : vars name = vars' name :=
  (h name).resolve_right fun hblank => hname hblank.1

theorem answerOf_eq (p : Protocol) : answerOf vars p = answerOf vars' p := by
  cases p <;> simp only [answerOf, h.numberOf_eq]

/-- **Such variables** are decided alike. -/
theorem ofVariables_eq : ofVariables vars = ofVariables vars' := by
  have hprotocol : protocolOf vars = protocolOf vars' := by
    rw [protocolOf, h.eq_of_not_mem (by decide), protocolOf]
  have hscope : textOf vars "TARGET_NAMESPACE" = textOf vars' "TARGET_NAMESPACE" := by
    rw [textOf, h.eq_of_not_mem (by decide), textOf]
  have himage : vars "AGENT_IMAGE" = vars' "AGENT_IMAGE" := h.eq_of_not_mem (by decide)
  simp only [ofVariables, h.numberOf_eq, h.labelsOf_eq, h.listed_eq, h.answerOf_eq, hprotocol,
    hscope, himage]

end Alike

/-- Setting a variable to blanks, or not at all. -/
theorem alike_update {name raw : String} (hname : name ∈ blankable) (hraw : Blank raw.toList) :
    Alike (Function.update vars name (some raw)) (Function.update vars name none) := by
  intro other
  by_cases hother : other = name
  · subst hother
    refine Or.inr ⟨hname, ?_, ?_⟩
    · intro found hfound
      rw [Function.update_self, Option.mem_def, Option.some.injEq] at hfound
      exact hfound ▸ hraw
    · simp [Vacant]
  · left
    rw [Function.update_of_ne hother, Function.update_of_ne hother]

/-! ## Decisions -/

/-- **Variables are decided** one after the other. -/
structure Decided (vars : Variables) : Prop where
  /-- They make an experiment exactly if each holds what is asked of it, -/
  accepted : (∃ e, ofVariables vars = .ok e) ↔ ∀ v : Variable, v.Holds vars
  /-- and it is the one that they describe. -/
  described : ∀ e, ofVariables vars = .ok e ↔ DescribedBy vars e
  /-- Otherwise the first that does not is blamed, whatever the others hold. -/
  refused : ∀ error, ofVariables vars = .error error ↔
    ∃ v, FirstFailing (Variable.Holds vars) Variable.order v ∧ v.Blames vars error
  /-- Blanks are the same as nothing, -/
  blank : ∀ name ∈ blankable, ∀ raw : String, Blank raw.toList →
    ofVariables (Function.update vars name (some raw)) =
      ofVariables (Function.update vars name none)

/-- **Experiments from variables**: every assignment of variables is decided. -/
theorem ofVariables_decided (vars : Variables) : Decided vars where
  accepted := by
    simp only [← errorOf?_eq_none_iff, errorOf?_ofVariables, List.findSome?_eq_none_iff]
    exact ⟨fun h v => v.tells_error?.1.mp (h v v.mem_order),
      fun h v _ => v.tells_error?.1.mpr (h v)⟩
  described _ := ofVariables_eq_ok_iff
  refused error := by
    rw [← errorOf?_eq_some_iff, errorOf?_ofVariables,
      findSome?_eq_some_iff_firstFailing fun v => v.tells_error?.1]
    refine exists_congr fun v => and_congr_right fun hv => ?_
    obtain ⟨-, -, -, -, hv⟩ := hv
    rw [v.tells_error?.2]
    exact and_iff_right hv
  blank _ hname _ hraw := (alike_update hname hraw).ofVariables_eq

/-- A protocol that there is not is reported ahead of labels that are none, and behind a number. -/
example :
    let bad : Variables := fun name => if name = "FAULT_PROTOCOL" then some "tcp" else
      if name = "SELECT_LABELS" then some "app" else none
    errorOf? (ofVariables bad) = some (.protocol "tcp") ∧
      errorOf? (ofVariables (Function.update bad "TARGET_PORT" (some "65536"))) =
        some (.number "TARGET_PORT" "65536" (.integer .tooLarge)) := by decide +kernel

end FaultInjection.Experiment

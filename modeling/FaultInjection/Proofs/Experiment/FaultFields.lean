import FaultInjection.Experiment.Document
import FaultInjection.Proofs.Fault.Flags
import FaultInjection.Proofs.Yaml.Nodes

/-!
# Fields of a fault

A node tells of a field of a fault if it stands for its value (`FaultField.Told`).  Buffered, it
gives that value to every fault of the same protocol (`FaultField.gives_of_told`), and the rest of
the fault stays as it is (`FaultField.agrees_of_withField`).  So many of them in a row give all that
they are for, in whatever order they come (`FaultField.withEntries_of_gives`).
-/

namespace FaultInjection

open Number Yaml Yaml.Document

/-! ## Parts of an answer -/

/-- The number that an answer carries. -/
def Answer.number : Answer → ℤ
  | .http code _ => code.toNat
  | .grpc status _ => status.toInt

/-- An answer is its protocol, its number and its text. -/
theorem Answer.eq_of_parts {answer other : Answer} (hprotocol : answer.protocol = other.protocol)
    (hnumber : answer.number = other.number) (htext : answer.text = other.text) :
    answer = other := by
  cases answer with
  | http code body =>
      cases other with
      | http code' body' =>
          have hcode : code = code' := UInt16.toNat_inj.mp (Int.ofNat_inj.mp hnumber)
          rw [hcode, show body = body' from htext]
      | grpc => cases hprotocol
  | grpc status message =>
      cases other with
      | http => cases hprotocol
      | grpc status' message' =>
          have hstatus : status = status' := Int32.toInt_inj.mp hnumber
          rw [hstatus, show message = message' from htext]

/-! ## Numbers of a type -/

theorem contains_uInt64 (x : UInt64) : (IntegerRange.unsigned 64).Contains x.toNat := by
  have := x.toNat_lt
  show -((0 : ℕ) : ℤ) ≤ x.toNat ∧ (x.toNat : ℤ) ≤ ((2 ^ 64 - 1 : ℕ) : ℤ)
  omega

theorem contains_uInt16 (x : UInt16) : (IntegerRange.unsigned 16).Contains x.toNat := by
  have := x.toNat_lt
  show -((0 : ℕ) : ℤ) ≤ x.toNat ∧ (x.toNat : ℤ) ≤ ((2 ^ 16 - 1 : ℕ) : ℤ)
  omega

theorem contains_int64 (x : Int64) : (IntegerRange.signed 64).Contains x.toInt := by
  have := x.le_toInt
  have := x.toInt_lt
  show -((2 ^ 63 : ℕ) : ℤ) ≤ x.toInt ∧ x.toInt ≤ ((2 ^ 63 - 1 : ℕ) : ℤ)
  omega

theorem contains_int32 (x : Int32) : (IntegerRange.signed 32).Contains x.toInt := by
  have := x.le_toInt
  have := x.toInt_lt
  show -((2 ^ 31 : ℕ) : ℤ) ≤ x.toInt ∧ x.toInt ≤ ((2 ^ 31 - 1 : ℕ) : ℤ)
  omega

/-- Sixty-four bits are not too wide. -/
theorem isWide_eq_false_of_signed {n : ℤ} (h : (IntegerRange.signed 64).Contains n) :
    isWide n = false := by
  rw [isWide, decide_eq_true h]
  rfl

theorem isWide_toNat (x : UInt64) : isWide x.toNat = false := by
  rw [isWide, decide_eq_true (contains_uInt64 x), Bool.not_true, Bool.and_false]

theorem isWide_number (answer : Answer) : isWide answer.number = false := by
  apply isWide_eq_false_of_signed
  show -((2 ^ 63 : ℕ) : ℤ) ≤ answer.number ∧ answer.number ≤ ((2 ^ 63 - 1 : ℕ) : ℤ)
  cases answer with
  | http code body =>
      have : -((0 : ℕ) : ℤ) ≤ code.toNat ∧ (code.toNat : ℤ) ≤ ((2 ^ 16 - 1 : ℕ) : ℤ) :=
        contains_uInt16 code
      rw [Answer.number]
      omega
  | grpc status message =>
      have : -((2 ^ 31 : ℕ) : ℤ) ≤ status.toInt ∧ status.toInt ≤ ((2 ^ 31 - 1 : ℕ) : ℤ) :=
        contains_int32 status
      rw [Answer.number]
      omega

/-- A port is as narrow as the code of an answer. -/
theorem isWide_port (port : UInt16) : isWide port.toNat = false := isWide_number (.http port "")

namespace Experiment

theorem readWhole_whole {expected : String} {range : IntegerRange} {n : ℤ} (h : range.Contains n) :
    (Content.atom (.whole n)).readWhole expected range = .ok n := if_pos h

theorem readMillis_whole (x : UInt64) : readMillis (.atom (.whole x.toNat)) = .ok x := by
  rw [readMillis, readWhole_whole (contains_uInt64 x)]
  simp [Except.map]

theorem readPort_whole (x : UInt16) : readPort (.atom (.whole x.toNat)) = .ok x := by
  rw [readPort, readWhole_whole (contains_uInt16 x)]
  simp [Except.map]

/-- Another number leaves the protocol and the text of an answer as they are. -/
theorem withNumber_eq_ok {content : Content} {answer next : Answer}
    (h : withNumber content answer = .ok next) :
    next.protocol = answer.protocol ∧ next.text = answer.text := by
  cases answer with
  | http code body =>
      obtain ⟨code', -, rfl⟩ := map_eq_ok_iff.mp h
      exact ⟨rfl, rfl⟩
  | grpc status message =>
      obtain ⟨status', -, rfl⟩ := map_eq_ok_iff.mp h
      exact ⟨rfl, rfl⟩

theorem withText_eq_ok {content : Content} {answer next : Answer}
    (h : withText content answer = .ok next) :
    next.protocol = answer.protocol ∧ next.number = answer.number := by
  obtain ⟨text, -, rfl⟩ := map_eq_ok_iff.mp h
  cases answer <;> exact ⟨rfl, rfl⟩

/-- The number of an answer can be given to every answer of the same protocol. -/
theorem withNumber_number {answer other : Answer} (h : other.protocol = answer.protocol) :
    ∃ next, withNumber (.atom (.whole answer.number)) other = .ok next ∧
      next.number = answer.number := by
  cases answer with
  | http code body =>
      cases other with
      | http code' body' =>
          have hread : readPort (.atom (.whole (Answer.http code body).number)) = .ok code :=
            readPort_whole code
          exact ⟨.http code body', by rw [withNumber, hread]; rfl, rfl⟩
      | grpc => cases h
  | grpc status message =>
      cases other with
      | http => cases h
      | grpc status' message' =>
          have hread : (Content.atom (.whole (Answer.grpc status message).number)).readWhole "i32"
              (.signed 32) = .ok status.toInt := readWhole_whole (contains_int32 status)
          refine ⟨.grpc (.ofInt status.toInt) message', by rw [withNumber, hread]; rfl, ?_⟩
          exact congrArg Int32.toInt (Int32.ofInt_toInt status)

namespace FaultField

/-! ## Fields that are told -/

/-- **A node tells of a field** of a fault. -/
def Told (fault : Fault UInt64) (node : Node) : FaultField → Prop
  | .averageDelay => IsWhole node fault.averageDelay.toNat
  | .delayVariation => IsWhole node fault.delayVariation.toNat
  | .errorRate => IsReal node fault.errorRate
  | .number => IsWhole node fault.answer.number
  | .text => IsText node fault.answer.text
  | .exclude => IsTexts node fault.exclude
  | .port => IsWhole node fault.port.toNat
  | .proxyPort => IsWhole node fault.proxyPort.toNat
  | .iface => IsText node fault.iface

/-- A field of a fault that need not be told, since it has its default. -/
def Usual (fault : Fault UInt64) : FaultField → Prop
  | .averageDelay => fault.averageDelay = 0
  | .delayVariation => fault.delayVariation = 0
  | .errorRate => Binary64.zero.Same fault.errorRate
  | .number => fault.answer.number = 0
  | .text => fault.answer.text = ""
  | .exclude => fault.exclude = []
  | .port => fault.port = 0
  | .proxyPort => fault.proxyPort = 0
  | .iface => fault.iface = ""

/-- A fault agrees with another one on a field. -/
def Agrees (fault other : Fault UInt64) : FaultField → Prop
  | .averageDelay => other.averageDelay = fault.averageDelay
  | .delayVariation => other.delayVariation = fault.delayVariation
  | .errorRate => other.errorRate.Same fault.errorRate
  | .number => other.answer.number = fault.answer.number
  | .text => other.answer.text = fault.answer.text
  | .exclude => other.exclude = fault.exclude
  | .port => other.port = fault.port
  | .proxyPort => other.proxyPort = fault.proxyPort
  | .iface => other.iface = fault.iface

variable {fault other next : Fault UInt64} {f : FaultField} {content : Content}

/-- A value of one field leaves the protocol and the other fields as they are. -/
theorem agrees_of_withField (fault : Fault UInt64) (h : withField other f content = .ok next) :
    next.protocol = other.protocol ∧ ∀ g ≠ f, g.Agrees fault other → g.Agrees fault next := by
  cases f with
  | number =>
      obtain ⟨answer, hanswer, rfl⟩ := map_eq_ok_iff.mp h
      obtain ⟨hprotocol, htext⟩ := withNumber_eq_ok hanswer
      refine ⟨hprotocol, fun g hne hg => ?_⟩
      cases g with
      | number => exact absurd rfl hne
      | text => exact htext.trans hg
      | _ => exact hg
  | text =>
      obtain ⟨answer, hanswer, rfl⟩ := map_eq_ok_iff.mp h
      obtain ⟨hprotocol, hnumber⟩ := withText_eq_ok hanswer
      refine ⟨hprotocol, fun g hne hg => ?_⟩
      cases g with
      | text => exact absurd rfl hne
      | number => exact hnumber.trans hg
      | _ => exact hg
  | _ =>
      obtain ⟨value, -, rfl⟩ := map_eq_ok_iff.mp h
      refine ⟨rfl, fun g hne hg => ?_⟩
      cases g <;> first | exact absurd rfl hne | exact hg

/-- The fault of which nothing is said has the defaults. -/
theorem agrees_emptyFault (h : f.Usual fault) : f.Agrees fault (emptyFault fault.protocol) := by
  cases f with
  | number | text =>
      cases hp : fault.protocol <;> exact Eq.symm h
  | errorRate => exact h
  | _ => exact Eq.symm h

/-- A fault that agrees with another one on all fields is the same, but for the error rate. -/
theorem eq_of_agrees (hprotocol : other.protocol = fault.protocol)
    (h : ∀ f : FaultField, f.Agrees fault other) :
    other = { fault with errorRate := other.errorRate } := by
  have hanswer : other.answer = fault.answer :=
    Answer.eq_of_parts hprotocol (h .number) (h .text)
  cases other
  cases fault
  rw [Fault.mk.injEq]
  exact ⟨h .averageDelay, h .delayVariation, rfl, hanswer, h .exclude, h .port, h .proxyPort,
    h .iface⟩

/-! ## Contents of fields -/

/-- A content gives a field of a fault, whatever was there before. -/
def Gives (fault : Fault UInt64) (f : FaultField) (content : Content) : Prop :=
  ∀ other, other.protocol = fault.protocol →
    ∃ next, withField other f content = .ok next ∧ f.Agrees fault next

/-- A value that is read alike from a content whatever the fault is. -/
theorem gives_of_eq_ok {α : Type} {read : Content → Except DecodeError α} {value : α}
    {put : Fault UInt64 → α → Fault UInt64} (hread : read content = .ok value)
    (hfield : ∀ other, withField other f content = (read content).map (put other))
    (hput : ∀ other, f.Agrees fault (put other value)) : f.Gives fault content := by
  intro other _
  exact ⟨put other value, by rw [hfield, hread]; rfl, hput other⟩

theorem buffer_of_isWhole {document : Document} {node : Node} {n : ℤ} (h : IsWhole node n)
    (hn : isWide n = false) : document.buffer faultDepth node = pure (.atom (.whole n)) :=
  buffer_of_standsFor h.standsFor (by rw [Atom.checked, hn]; rfl) 125

/-- **A node that tells of a field** is buffered to a content that gives it. -/
theorem gives_of_told (document : Document) {node : Node} (h : f.Told fault node) :
    ∃ content, document.buffer faultDepth node = pure content ∧ f.Gives fault content := by
  cases f with
  | averageDelay | delayVariation =>
      refine ⟨_, buffer_of_isWhole h (isWide_toNat _), ?_⟩
      exact gives_of_eq_ok (readMillis_whole _) (fun _ => rfl) fun _ => rfl
  | errorRate =>
      rcases h with ⟨y, hstands, hsame⟩ | ⟨n, hstands, hnarrow, hsame⟩
      · refine ⟨_, buffer_of_standsFor hstands rfl 125, fun other _ => ?_⟩
        exact ⟨{ other with errorRate := y }, rfl, hsame⟩
      · have hchecked : (Atom.whole n).checked "any value" = .ok (.whole n) := by
          rw [Atom.checked, hnarrow]
          rfl
        refine ⟨_, buffer_of_standsFor hstands hchecked 125, fun other _ => ?_⟩
        exact ⟨{ other with errorRate := .ofInt n }, rfl, hsame⟩
  | number =>
      refine ⟨_, buffer_of_isWhole h (isWide_number _), fun other hother => ?_⟩
      obtain ⟨answer, hanswer, hnumber⟩ := withNumber_number hother
      exact ⟨{ other with answer }, by rw [withField, hanswer]; rfl, hnumber⟩
  | text =>
      refine ⟨_, buffer_of_standsFor h rfl 125, fun other _ => ⟨_, rfl, ?_⟩⟩
      cases hanswer : other.answer <;> rfl
  | exclude =>
      refine ⟨_, buffer_of_isTexts h 124, ?_⟩
      exact gives_of_eq_ok (Content.readTexts_texts _) (fun _ => rfl) fun _ => rfl
  | port | proxyPort =>
      refine ⟨_, buffer_of_isWhole h (isWide_port _), ?_⟩
      exact gives_of_eq_ok (readPort_whole _) (fun _ => rfl) fun _ => rfl
  | iface =>
      refine ⟨_, buffer_of_standsFor h rfl 125, ?_⟩
      have hread : (Content.atom (.text fault.iface)).readText = .ok fault.iface := rfl
      exact gives_of_eq_ok hread (fun _ => rfl) fun _ => rfl

/-! ## All fields -/

/-- **Contents in a row** give the fields that they are for, and keep the others. -/
theorem withEntries_of_gives {fs : List FaultField} {contents : List (Content × Content)}
    (h : List.Forall₂ (fun f (content : Content × Content) =>
      content.1 = .atom (.text (f.name fault.protocol)) ∧ f.Gives fault content.2) fs contents)
    (hnodup : fs.Nodup) (seen : List FaultField) (hseen : ∀ f ∈ fs, f ∉ seen)
    (hother : other.protocol = fault.protocol) :
    ∃ next, withEntries fault.protocol seen other contents = .ok next ∧
      next.protocol = fault.protocol ∧
      ∀ f : FaultField, f ∈ fs ∨ f.Agrees fault other → f.Agrees fault next := by
  induction h generalizing seen other with
  | nil => exact ⟨other, rfl, hother, fun f hf => hf.resolve_left List.not_mem_nil⟩
  | @cons f content fs contents hcontent _ ih =>
      obtain ⟨key, value⟩ := content
      obtain ⟨rfl, hgives⟩ := hcontent
      obtain ⟨hf, hnodup⟩ := List.nodup_cons.mp hnodup
      have hkey : ofKey fault.protocol (.atom (.text (f.name fault.protocol))) = .ok (some f) := by
        cases f <;> cases fault.protocol <;> rfl
      obtain ⟨mid, hmid, hagrees⟩ := hgives other hother
      obtain ⟨hprotocol, hkeeps⟩ := agrees_of_withField fault hmid
      obtain ⟨next, hnext, hprotocol, hall⟩ :=
        ih hnodup (f :: seen) (not_mem_seen hf hseen) (hprotocol.trans hother)
      refine ⟨next, ?_, hprotocol, fun g hg => hall g (mem_or_of_step hagrees hkeeps hg)⟩
      simp only [withEntries, hkey, bind, Except.bind, if_neg (hseen f List.mem_cons_self), hmid]
      exact hnext

end FaultField

end Experiment

end FaultInjection

import FaultInjection.Proofs.Experiment.FaultEntries
import FaultInjection.Proofs.Text.Keyed

/-!
# Experiments from the documents that tell of them

A document tells of an experiment if its entries tell of all fields that do not have their defaults
(`TellsOf`).  They may stand in any order, at every level, and entries of no concern may come in
between.  Each entry gives its own field to the draft and leaves the rest of it as it is
(`withField_of_toldBy`, `agrees_of_withField`), so that the draft agrees with the experiment on all
fields in the end.  A document without a fault, or whose fault names no protocol or one that there
is not, is refused whatever else it holds (`ofDocument_eq_ok`).  Both together are said of every
text (`ofText_decoded`).
-/

namespace FaultInjection.Experiment

open Number Yaml Yaml.Document

/-! ## Entries of an experiment -/

/-- **A mapping tells of labels**: its entries are their pairs, in any order. -/
def TellsLabels (node : Node) (labels : Labels) : Prop :=
  ∃ tag entries pairs, node = .mapping tag entries ∧ pairs.Perm labels.pairs ∧
    List.Forall₂ (fun (entry : Node × Node) (pair : String × String) =>
      IsText entry.1 pair.1 ∧ IsText entry.2 pair.2) entries pairs

namespace Field

/-- A node tells of a field of an experiment. -/
def ToldBy (e : Experiment) (node : Node) : Field → Prop
  | .scope => IsText node e.scope
  | .select => TellsLabels node e.select
  | .exclude => TellsLabels node e.exclude
  | .injectTimeout => IsWhole node e.injectTimeoutSecs.toInt
  | .agentImage => IsText node e.agentImage
  | .duration => IsWhole node e.durationSecs.toNat
  | .fault => TellsFault node e.fault

/-- **An entry tells of a field** of an experiment. -/
def Told (e : Experiment) (field : Field) (entry : Node × Node) : Prop :=
  IsText entry.1 field.name ∧ field.ToldBy e entry.2

/-- A field of an experiment that need not be told, since it has its default. -/
def Usual (e : Experiment) : Field → Prop
  | .scope => e.scope = ""
  | .select => e.select = .empty
  | .exclude => e.exclude = .empty
  | .injectTimeout => e.injectTimeoutSecs = 0
  | .agentImage => e.agentImage = Agent.defaultImage
  | .duration => e.durationSecs = 30
  | .fault => False

/-- A draft agrees with an experiment on a field.  The error rates are numerically the same. -/
def Agrees (e : Experiment) (draft : Draft) : Field → Prop
  | .scope => draft.scope = e.scope
  | .select => draft.select = e.select
  | .exclude => draft.exclude = e.exclude
  | .injectTimeout => draft.injectTimeoutSecs = e.injectTimeoutSecs
  | .agentImage => draft.agentImage = e.agentImage
  | .duration => draft.durationSecs = e.durationSecs
  | .fault => ∃ rate : Binary64, rate.Same e.fault.errorRate ∧
      draft.fault = some { e.fault with errorRate := rate }

end Field

/-- An entry of no concern: its key is a text that is no name, and its value is complete. -/
def Unknown (entry : Node × Node) : Prop :=
  (∃ key, IsText entry.1 key ∧ ∀ field : Field, field.name ≠ key) ∧ hasCut entry.2 = false

/-- **Entries tell of an experiment**: of all fields that do not have their defaults, in any order
and between entries of no concern. -/
def TellsOf (entries : List (Node × Node)) (e : Experiment) : Prop :=
  ∃ fields, Tells (Field.Told e) Unknown fields entries ∧
    ∀ field ∉ fields, Field.Usual e field

/-! ## Fields one by one -/

section

variable {e : Experiment} (document : Document)

theorem readLabels_of_tells {node : Node} {labels : Labels} (h : TellsLabels node labels) :
    readLabels document node = pure labels := by
  obtain ⟨tag, entries, pairs, rfl, hperm, hentries⟩ := h
  have hpairs : Labels.ofList pairs = labels := by
    obtain ⟨pairs', hascending⟩ := labels
    simp only [Labels.ofList, Text.Keyed.ofList_of_perm hascending hperm]
  rw [readLabels, readEntries, follow_mapping, pure_bind, pure_bind]
  refine (mapM_bind_eq (hentries.imp fun entry pair hpair => ?_)).trans (congrArg pure hpairs)
  obtain ⟨k, v⟩ := entry
  dsimp only
  rw [readText_of_isText hpair.1, pure_bind, readText_of_isText hpair.2, pure_bind]

/-- **A node that tells of a field** gives it to every draft. -/
theorem withField_of_toldBy {node : Node} {field : Field} (h : field.ToldBy e node)
    (draft : Draft) :
    ∃ next, draft.withField document field node = pure next ∧ field.Agrees e next := by
  cases field with
  | scope =>
      refine ⟨{ draft with scope := e.scope }, ?_, rfl⟩
      rw [Draft.withField, readText_of_isText h, pure_bind]
  | select =>
      refine ⟨{ draft with select := e.select }, ?_, rfl⟩
      rw [Draft.withField, readLabels_of_tells document h, pure_bind]
  | exclude =>
      refine ⟨{ draft with exclude := e.exclude }, ?_, rfl⟩
      rw [Draft.withField, readLabels_of_tells document h, pure_bind]
  | injectTimeout =>
      refine ⟨{ draft with injectTimeoutSecs := e.injectTimeoutSecs }, ?_, rfl⟩
      rw [Draft.withField, readSigned_of_isWhole h (contains_int64 _) (by decide), pure_bind,
        Int64.ofInt_toInt]
  | agentImage =>
      refine ⟨{ draft with agentImage := e.agentImage }, ?_, rfl⟩
      rw [Draft.withField, readText_of_isText h, pure_bind]
  | duration =>
      refine ⟨{ draft with durationSecs := e.durationSecs }, ?_, rfl⟩
      rw [Draft.withField, readUnsigned_of_isWhole h (contains_uInt64 _) (by omega), pure_bind,
        Int.toNat_natCast, UInt64.ofNat_toNat]
  | fault =>
      obtain ⟨rate, hsame, hread⟩ := readFault_of_tells document h
      refine ⟨{ draft with fault := some { e.fault with errorRate := rate } }, ?_, rate, hsame, rfl⟩
      rw [Draft.withField, hread, pure_bind]

end

/-- A value of one field leaves the others as they are. -/
theorem agrees_of_withField {document : Document} {draft next : Draft} {field : Field}
    {node : Node} (e : Experiment) (h : draft.withField document field node = pure next) :
    ∀ other ≠ field, other.Agrees e draft → other.Agrees e next := by
  intro other hne hother
  have hrun : (draft.withField document field node).run 0 = .ok (next, 0) := by
    rw [h]
    rfl
  cases field with
  | _ =>
      obtain ⟨value, mid, -, hnext⟩ := run_bind_eq_ok_iff.mp hrun
      obtain ⟨rfl, -⟩ := run_pure_eq_ok_iff.mp hnext
      cases other <;> first | exact absurd rfl hne | exact hother

/-! ## All entries -/

section

variable {e : Experiment} {fields : List Field} {entries : List (Node × Node)}

/-- **Entries in a row** give the fields that they are for, and keep the others. -/
theorem withEntries_of_tells (document : Document) (h : Tells (Field.Told e) Unknown fields entries)
    (seen : List Field) (hseen : ∀ field ∈ fields, field ∉ seen) (draft : Draft) :
    ∃ next, Draft.withEntries document seen draft entries = pure next ∧
      ∀ field : Field, field ∈ fields ∨ field.Agrees e draft → field.Agrees e next := by
  induction h generalizing seen draft with
  | nil => exact ⟨draft, rfl, fun field hfield => hfield.resolve_left List.not_mem_nil⟩
  | @field field fields entry entries htold hfield _ ih =>
      obtain ⟨k, v⟩ := entry
      obtain ⟨hk, hv⟩ := htold
      have hfind : Field.all.find? (·.name = field.name) = some field := by cases field <;> decide
      obtain ⟨mid, hmid, hagrees⟩ := withField_of_toldBy document hv draft
      obtain ⟨next, hnext, hall⟩ := ih (field :: seen) (not_mem_seen hfield hseen) mid
      refine ⟨next, ?_, fun other hother => hall other ?_⟩
      · rw [Draft.withEntries, readText_of_isText hk, pure_bind]
        simp only [hfind, if_neg (hseen field List.mem_cons_self), hmid, pure_bind, hnext]
      · exact mem_or_of_step hagrees (agrees_of_withField e hmid) hother
  | @other fields entry entries hunknown _ ih =>
      obtain ⟨k, v⟩ := entry
      obtain ⟨⟨key, hk, hno⟩, hcut⟩ := hunknown
      have hfind : Field.all.find? (·.name = key) = none := by
        simp only [List.find?_eq_none, decide_eq_true_eq]
        exact fun field _ => hno field
      obtain ⟨next, hnext, hall⟩ := ih seen hseen draft
      refine ⟨next, ?_, hall⟩
      rw [Draft.withEntries, readText_of_isText hk, pure_bind]
      simp only [hfind, ignore, hcut]
      exact hnext

/-- The draft of which nothing is said has the defaults. -/
theorem agrees_default {field : Field} (h : field.Usual e) : field.Agrees e {} := by
  cases field with
  | fault => exact h.elim
  | _ => exact Eq.symm h

/-- **The same experiment**, with an error rate that is numerically the same. -/
def Same (found e : Experiment) : Prop :=
  ∃ rate : Binary64, rate.Same e.fault.errorRate ∧
    found = { e with fault := { e.fault with errorRate := rate } }

/-- A draft that agrees with an experiment on all fields is the same. -/
theorem finish_of_agrees {draft : Draft} (h : ∀ field : Field, field.Agrees e draft) :
    ∃ found, draft.finish = .ok found ∧ found.Same e := by
  obtain ⟨rate, hsame, hfault⟩ := h .fault
  refine ⟨_, ?_, rate, hsame, rfl⟩
  have hscope : draft.scope = e.scope := h .scope
  have hselect : draft.select = e.select := h .select
  have hexclude : draft.exclude = e.exclude := h .exclude
  have htimeout : draft.injectTimeoutSecs = e.injectTimeoutSecs := h .injectTimeout
  have himage : draft.agentImage = e.agentImage := h .agentImage
  have hduration : draft.durationSecs = e.durationSecs := h .duration
  simp only [Draft.finish, hfault, hscope, hselect, hexclude, htimeout, himage, hduration]

/-- **A document that tells of an experiment** is read as that. -/
theorem ofDocument_of_tells {document : Document} {tag : Option String}
    (hroot : document.root = some (.mapping tag entries)) (hcomplete : document.complete = true)
    (h : TellsOf entries e) : ∃ found, found.Same e ∧ ofDocument document = .ok found := by
  obtain ⟨fields, htells, husual⟩ := h
  obtain ⟨next, hnext, hall⟩ :=
    withEntries_of_tells document htells [] (fun _ _ => List.not_mem_nil) {}
  have hagrees : ∀ field : Field, field.Agrees e next := by
    intro field
    apply hall
    by_cases hfield : field ∈ fields
    · exact Or.inl hfield
    · exact Or.inr (agrees_default (husual field hfield))
  obtain ⟨found, hfound, hsame⟩ := finish_of_agrees hagrees
  have hdraft : readDraft document = pure next := by
    rw [readDraft, hroot]
    exact hnext
  have hread : document.read (readDraft document) = .ok next := by
    rw [hdraft]
    rfl
  refine ⟨found, hsame, ?_⟩
  rw [ofDocument, hread]
  simp only [bind, Except.bind, hfound, hcomplete]
  rfl

/-! ## Documents that are refused -/

/-- A name that is read is that of the field that is found for it. -/
theorem name_of_find? {name : String} {field : Field}
    (h : Field.all.find? (·.name = name) = some field) : field.name = name := by
  simpa using List.find?_some h

/-- Only the field of the fault gives a fault, and then it is read. -/
theorem fault_of_withField {document : Document} {draft next : Draft} {field : Field} {node : Node}
    {left left' : ℕ} (h : (draft.withField document field node).run left = .ok (next, left')) :
    (field = .fault ∧ ∃ fault mid mid', (readFault document node).run mid = .ok (fault, mid')) ∨
      (field ≠ .fault ∧ next.fault = draft.fault) := by
  cases field with
  | fault =>
      obtain ⟨fault, mid, hread, -⟩ := run_bind_eq_ok_iff.mp h
      exact Or.inl ⟨rfl, fault, left, mid, hread⟩
  | _ =>
      obtain ⟨value, mid, -, hnext⟩ := run_bind_eq_ok_iff.mp h
      obtain ⟨rfl, -⟩ := run_pure_eq_ok_iff.mp hnext
      refine Or.inr ⟨fun hfield => ?_, rfl⟩
      cases hfield

/-- **Entries that are read** have a fault among them where it is found, and every fault among them
is read. -/
theorem withEntries_eq_ok {document : Document} {seen : List Field} {draft next : Draft}
    {left left' : ℕ}
    (h : (Draft.withEntries document seen draft entries).run left = .ok (next, left')) :
    (next.fault.isSome → draft.fault.isSome ∨
      ∃ entry ∈ entries, document.Says entry.1 Field.fault.name) ∧
    ∀ entry ∈ entries, document.Says entry.1 Field.fault.name →
      ∃ fault mid mid', (readFault document entry.2).run mid = .ok (fault, mid') := by
  induction entries generalizing seen draft left with
  | nil =>
      obtain ⟨rfl, -⟩ := run_pure_eq_ok_iff.mp h
      exact ⟨Or.inl, fun _ hmem => absurd hmem List.not_mem_nil⟩
  | cons entry entries ih =>
      obtain ⟨k, v⟩ := entry
      rw [Draft.withEntries] at h
      obtain ⟨name, mid, hname, h⟩ := run_bind_eq_ok_iff.mp h
      have hsaid := says_of_readText hname
      have hlater : (∃ entry ∈ entries, document.Says entry.1 Field.fault.name) →
          ∃ entry ∈ (k, v) :: entries, document.Says entry.1 Field.fault.name :=
        fun ⟨entry, hmem, hentry⟩ => ⟨entry, List.mem_cons_of_mem _ hmem, hentry⟩
      -- A key that says it is the fault is found to be so.
      have hfault : document.Says k Field.fault.name →
          Field.all.find? (·.name = name) = some .fault := by
        intro hk
        rw [hsaid.eq hk]
        decide
      rw [List.forall_mem_cons]
      split at h
      · next hfind =>
        obtain ⟨_, mid', -, h⟩ := run_bind_eq_ok_iff.mp h
        obtain ⟨hsome, hall⟩ := ih h
        refine ⟨fun hnext => (hsome hnext).imp_right hlater, fun hk => ?_, hall⟩
        rw [hfault hk] at hfind
        cases hfind
      · next field hfind =>
        split at h
        · exact absurd h run_throw_ne_ok
        · obtain ⟨given, mid', hgiven, h⟩ := run_bind_eq_ok_iff.mp h
          obtain ⟨hsome, hall⟩ := ih h
          rcases fault_of_withField hgiven with ⟨rfl, hread⟩ | ⟨hfield, hsame⟩
          · have hk : document.Says k Field.fault.name := by
              rw [name_of_find? hfind]
              exact hsaid
            exact ⟨fun _ => Or.inr ⟨_, List.mem_cons_self, hk⟩, fun _ => hread, hall⟩
          · rw [hsame] at hsome
            refine ⟨fun hnext => (hsome hnext).imp_right hlater, fun hk => ?_, hall⟩
            rw [hfault hk] at hfind
            exact absurd (Option.some.inj hfind).symm hfield

/-- **A mapping that is read as an experiment** has a fault, and every fault among its entries that
is a mapping names a protocol, and names it properly. -/
theorem ofDocument_eq_ok {document : Document} {tag : Option String} {found : Experiment}
    (hroot : document.root = some (.mapping tag entries)) (h : ofDocument document = .ok found) :
    (∃ entry ∈ entries, document.Says entry.1 Field.fault.name) ∧
    ∀ entry ∈ entries, document.Says entry.1 Field.fault.name →
      ∀ {tag parts}, document.Leads entry.2 (.mapping tag parts) →
        (∃ part ∈ parts, document.Says part.1 protocolKey) ∧
          ∀ part ∈ parts, document.Says part.1 protocolKey →
            ∃ p : Protocol, document.Says part.2 p.name := by
  obtain ⟨draft, hread, h⟩ := bind_eq_ok_iff.mp h
  obtain ⟨⟨draft', left⟩, hrun, rfl⟩ := map_eq_ok_iff.mp hread
  obtain ⟨experiment, hfinish, -⟩ := bind_eq_ok_iff.mp h
  have hdraft : draft'.fault.isSome := by
    unfold Draft.finish at hfinish
    split at hfinish
    · cases hfinish
    · next fault hfault =>
      rw [hfault]
      rfl
  have hentries : (Draft.withEntries document [] {} entries).run document.aliasLimit =
      .ok (draft', left) := by
    rw [readDraft, hroot] at hrun
    exact hrun
  obtain ⟨hsome, hall⟩ := withEntries_eq_ok hentries
  refine ⟨(hsome hdraft).resolve_left fun hnone => (by cases hnone), ?_⟩
  intro entry hmem hentry tag parts hleads
  obtain ⟨fault, mid, mid', hfault⟩ := hall entry hmem hentry
  exact readFault_eq_ok hfault hleads

end

/-! ## Texts -/

/-- **What becomes of a text** that is a mapping. -/
structure Decoded (s : String) : Prop where
  /-- If it tells of an experiment, it is read as that, -/
  told : ∀ {tag entries e}, (Document.ofText s).root = some (.mapping tag entries) →
    (Document.ofText s).complete = true → TellsOf entries e →
    ∃ found : Experiment, found.Same e ∧ ofText s = .ok found
  /-- and it is refused if it has no fault, -/
  bare : ∀ {tag entries}, (Document.ofText s).root = some (.mapping tag entries) →
    (∀ entry ∈ entries, ¬ (Document.ofText s).Says entry.1 "fault") →
    ∃ error, ofText s = .error error
  /-- if the fault is a mapping without a protocol, -/
  unnamed : ∀ {tag entries}, (Document.ofText s).root = some (.mapping tag entries) →
    ∀ entry ∈ entries, (Document.ofText s).Says entry.1 "fault" →
    ∀ {tag parts}, (Document.ofText s).Leads entry.2 (.mapping tag parts) →
    (∀ part ∈ parts, ¬ (Document.ofText s).Says part.1 "protocol") →
    ∃ error, ofText s = .error error
  /-- or if the protocol is one that there is not, whatever else it holds. -/
  misnamed : ∀ {tag entries}, (Document.ofText s).root = some (.mapping tag entries) →
    ∀ entry ∈ entries, (Document.ofText s).Says entry.1 "fault" →
    ∀ {tag parts}, (Document.ofText s).Leads entry.2 (.mapping tag parts) →
    ∀ part ∈ parts, (Document.ofText s).Says part.1 "protocol" →
    ¬ (Document.ofText s).Says part.2 "http" → ¬ (Document.ofText s).Says part.2 "grpc" →
    ∃ error, ofText s = .error error

theorem exists_error_of_forall_ne {ε α : Type} {x : Except ε α} (h : ∀ a, x ≠ .ok a) :
    ∃ error, x = .error error := by
  cases x with
  | error e => exact ⟨e, rfl⟩
  | ok a => exact absurd rfl (h a)

/-- **Documents of experiments**: what a text that is a mapping tells of is what is read. -/
theorem ofText_decoded (s : String) : Decoded s where
  told hroot hcomplete htells := ofDocument_of_tells hroot hcomplete htells
  bare hroot hno := by
    refine exists_error_of_forall_ne fun found hfound => ?_
    obtain ⟨⟨entry, hmem, hentry⟩, -⟩ := ofDocument_eq_ok hroot hfound
    exact hno entry hmem hentry
  unnamed hroot entry hmem hentry _ _ hleads hno := by
    refine exists_error_of_forall_ne fun found hfound => ?_
    obtain ⟨-, hall⟩ := ofDocument_eq_ok hroot hfound
    obtain ⟨⟨part, hpart, hkey⟩, -⟩ := hall entry hmem hentry hleads
    exact hno part hpart hkey
  misnamed hroot entry hmem hentry _ _ hleads part hpart hkey hhttp hgrpc := by
    refine exists_error_of_forall_ne fun found hfound => ?_
    obtain ⟨-, hall⟩ := ofDocument_eq_ok hroot hfound
    obtain ⟨p, hp⟩ := (hall entry hmem hentry hleads).2 part hpart hkey
    cases p with
    | http => exact hhttp hp
    | grpc => exact hgrpc hp

/-- A plain scalar without a tag. -/
def plain (s : String) : Node := .scalar none .plain s

/-- A text with entries out of order, one of them of no concern, and defaults left out. -/
def sampleText : String :=
  "note: [x]\nselect: \x7btier: web, app: shop\x7d\nfault:\n  errorRate: 0.5\n  errorCode: 500\n" ++
    "  protocol: http\n"

/-- The entries of its fault, -/
def sampleParts : List (Node × Node) :=
  [(plain "errorRate", plain "0.5"), (plain "errorCode", plain "500"),
    (plain "protocol", plain "http")]

/-- and all its entries. -/
def sampleEntries : List (Node × Node) :=
  [(plain "note", .sequence none [plain "x"]),
    (plain "select", .mapping none [(plain "tier", plain "web"), (plain "app", plain "shop")]),
    (plain "fault", .mapping none sampleParts)]

/-- The experiment that it tells of. -/
def sample : Experiment where
  scope := ""
  select := .ofList [("app", "shop"), ("tier", "web")]
  exclude := .empty
  injectTimeoutSecs := 0
  agentImage := Agent.defaultImage
  durationSecs := 30
  fault := {
    averageDelay := 0
    delayVariation := 0
    errorRate := .ofDecimal false 5 (-1)
    answer := .http 500 ""
    exclude := []
    port := 0
    proxyPort := 0
    iface := "" }

/-- The tokens of the text. -/
def sampleTokens : List Token :=
  [.blockMappingStart, .key, .scalar .plain "note", .value, .flowSequenceStart, .scalar .plain "x",
    .flowSequenceEnd, .key, .scalar .plain "select", .value, .flowMappingStart, .key,
    .scalar .plain "tier", .value, .scalar .plain "web", .flowEntry, .key, .scalar .plain "app",
    .value, .scalar .plain "shop", .flowMappingEnd, .key, .scalar .plain "fault", .value,
    .blockMappingStart, .key, .scalar .plain "errorRate", .value, .scalar .plain "0.5", .key,
    .scalar .plain "errorCode", .value, .scalar .plain "500", .key, .scalar .plain "protocol",
    .value, .scalar .plain "http", .blockEnd, .blockEnd, .streamEnd]

theorem readTokens_sampleText : readTokens sampleText = sampleTokens := by decide +kernel

theorem ofText_sampleText :
    Document.ofText sampleText = ⟨some (.mapping none sampleEntries), [], true⟩ := by
  rw [Document.ofText, readTokens_sampleText]
  rfl

theorem isText_plain {s : String} (h : atomOf s = .text s) : IsText (plain s) s :=
  ⟨none, .plain, s, rfl, rfl, congrArg Except.ok h⟩

theorem tellsFault_sampleParts : TellsFault (.mapping none sampleParts) sample.fault := by
  have hrate : IsReal (plain "0.5") (.ofDecimal false 5 (-1)) :=
    Or.inl ⟨.ofDecimal false 5 (-1), ⟨none, .plain, "0.5", rfl, rfl, by decide +kernel⟩,
      Or.inl ⟨_, rfl, rfl⟩⟩
  have hcode : IsWhole (plain "500") 500 := ⟨"500", rfl, by decide +kernel, fun h => by cases h⟩
  refine ⟨none, sampleParts, [.field .errorRate, .field .number, .protocol], rfl, rfl, ?_, ?_⟩
  · exact .field ⟨isText_plain (by decide +kernel), hrate⟩ (by decide) <|
      .field ⟨isText_plain (by decide +kernel), hcode⟩ (by decide) <|
      .field ⟨isText_plain (by decide +kernel), isText_plain (by decide +kernel)⟩ (by decide) .nil
  · intro entry hentry
    cases entry with
    | protocol => exact absurd (by decide) hentry
    | field f => cases f <;> first | rfl | exact absurd (by decide) hentry

theorem tellsOf_sampleEntries : TellsOf sampleEntries sample := by
  have hselect : TellsLabels (.mapping none
      [(plain "tier", plain "web"), (plain "app", plain "shop")]) sample.select :=
    ⟨none, _, [("tier", "web"), ("app", "shop")], rfl, by decide +kernel,
      .cons ⟨isText_plain (by decide +kernel), isText_plain (by decide +kernel)⟩ <|
        .cons ⟨isText_plain (by decide +kernel), isText_plain (by decide +kernel)⟩ .nil⟩
  have hnote : ∀ field : Field, field.name ≠ "note" := fun field => by cases field <;> decide
  refine ⟨[.select, .fault], ?_, ?_⟩
  · exact .other ⟨⟨"note", isText_plain (by decide +kernel), hnote⟩, rfl⟩ <|
      .field ⟨isText_plain (by decide +kernel), hselect⟩ (by decide) <|
      .field ⟨isText_plain (by decide +kernel), tellsFault_sampleParts⟩ (by decide) .nil
  · intro field hfield
    cases field <;> first | rfl | exact absurd (by decide) hfield

theorem decoded_sampleText :
    ∃ found : Experiment, found.Same sample ∧ ofText sampleText = .ok found :=
  (ofText_decoded sampleText).told (congrArg Document.root ofText_sampleText)
    (congrArg Document.complete ofText_sampleText) tellsOf_sampleEntries

end FaultInjection.Experiment

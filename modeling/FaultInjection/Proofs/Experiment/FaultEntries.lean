import FaultInjection.Proofs.Experiment.FaultFields

/-!
# Faults from the entries that tell of them

The entries of a fault stand in any order.  The protocol is taken out of them wherever it stands
(`splitEntries_of_tells`), and only then is it known what the other ones are for.  Each of those
gives its own field, and what is not told has its default (`readFault_of_tells`).  A mapping without
a protocol, or with one that there is not, is no fault, whatever else it holds (`readFault_eq_ok`).
-/

namespace FaultInjection.Experiment

open Number Yaml Yaml.Document

/-! ## Entries of a fault -/

/-- What the entries of a fault are for. -/
inductive FaultEntry where
  | protocol
  | field (f : FaultField)
deriving DecidableEq, Repr

namespace FaultEntry

/-- The field of an entry. -/
def field? : FaultEntry → Option FaultField
  | .protocol => none
  | .field f => some f

/-- **An entry tells** of the protocol of a fault, or of a field. -/
def Told (fault : Fault UInt64) : FaultEntry → Node × Node → Prop
  | .protocol, entry => IsText entry.1 protocolKey ∧ IsText entry.2 fault.protocol.name
  | .field f, entry => IsText entry.1 (f.name fault.protocol) ∧ f.Told fault entry.2

/-- An entry that may be missing. -/
def Usual (fault : Fault UInt64) : FaultEntry → Prop
  | .protocol => False
  | .field f => f.Usual fault

end FaultEntry

/-- **A mapping tells of a fault**: its entries tell of the protocol, and of all fields that do not
have their defaults. -/
def TellsFault (node : Node) (fault : Fault UInt64) : Prop :=
  ∃ tag entries fields, node = .mapping tag entries ∧ isLocalTag tag = false ∧
    Tells (FaultEntry.Told fault) (fun _ => False) fields entries ∧
    ∀ f ∉ fields, FaultEntry.Usual fault f

section

variable {fault : Fault UInt64} (document : Document)

theorem bufferKey_of_isText {node : Node} {s : String} (h : IsText node s) :
    bufferKey document node = pure (.atom (.text s)) := by
  obtain ⟨tag, style, text, rfl, htag, hstands⟩ := h
  rw [bufferKey, follow_scalar, pure_bind]
  simp only [bufferScalar_of_checked htag hstands rfl]
  rfl

theorem readProtocol_of_isText {node : Node} {p : Protocol} (h : IsText node p.name) :
    readProtocol document node = pure p := by
  rw [readProtocol, readText_of_isText h, pure_bind, Protocol.ofName?_name]

/-- The name of a field is not that of the protocol. -/
theorem name_ne_protocolKey (f : FaultField) (p : Protocol) : f.name p ≠ protocolKey := by
  cases f <;> cases p <;> decide

/-- **The protocol is taken out** of the entries, wherever it stands, and the others give their
fields. -/
theorem splitEntries_of_tells {fields : List FaultEntry} {entries : List (Node × Node)}
    (h : Tells (FaultEntry.Told fault) (fun _ => False) fields entries) {known : Option Protocol}
    (hknown : known.isSome → .protocol ∉ fields) :
    ∃ contents, splitEntries document known entries =
        pure (if .protocol ∈ fields then some fault.protocol else known, contents) ∧
      List.Forall₂ (fun f (content : Content × Content) =>
        content.1 = .atom (.text (f.name fault.protocol)) ∧ f.Gives fault content.2)
        (fields.filterMap FaultEntry.field?) contents := by
  induction h generalizing known with
  | nil => exact ⟨[], rfl, .nil⟩
  | other hfalse => exact hfalse.elim
  | @field f fields entry entries htold hf htells ih =>
      obtain ⟨k, v⟩ := entry
      rw [splitEntries]
      cases f with
      | protocol =>
          obtain ⟨hk, hv⟩ := htold
          have hnone : known = none := by
            cases known with
            | none => rfl
            | some p => exact absurd List.mem_cons_self (hknown rfl)
          have hsome : (some fault.protocol).isSome → .protocol ∉ fields := fun _ => hf
          obtain ⟨contents, hsplit, hcontents⟩ := ih hsome
          refine ⟨contents, ?_, hcontents⟩
          rw [bufferKey_of_isText document hk, pure_bind]
          subst hnone
          show (readProtocol document v >>= fun p => splitEntries document (some p) entries) = _
          rw [readProtocol_of_isText document hv, pure_bind, hsplit, if_neg hf,
            if_pos List.mem_cons_self]
      | field f =>
          obtain ⟨hk, hv⟩ := htold
          obtain ⟨content, hbuffer, hgives⟩ := FaultField.gives_of_told document hv
          obtain ⟨contents, hsplit, hcontents⟩ := ih fun hsome hmem =>
            hknown hsome (List.mem_cons_of_mem _ hmem)
          refine ⟨(.atom (.text (f.name fault.protocol)), content) :: contents, ?_,
            .cons ⟨rfl, hgives⟩ hcontents⟩
          rw [bufferKey_of_isText document hk, pure_bind]
          split
          · next hkey =>
            have hname := Atom.text.inj (Content.atom.inj hkey)
            exact absurd hname (name_ne_protocolKey f fault.protocol)
          · rw [hbuffer, pure_bind, hsplit, pure_bind]
            simp

theorem mem_filterMap_field?_iff {f : FaultField} {fields : List FaultEntry} :
    f ∈ fields.filterMap FaultEntry.field? ↔ .field f ∈ fields := by
  rw [List.mem_filterMap]
  constructor
  · rintro ⟨entry, hmem, hentry⟩
    cases entry with
    | protocol => cases hentry
    | field g =>
        cases hentry
        exact hmem
  · exact fun hmem => ⟨.field f, hmem, rfl⟩

theorem nodup_filterMap_field? {fields : List FaultEntry} (h : fields.Nodup) :
    (fields.filterMap FaultEntry.field?).Nodup := by
  refine h.filterMap fun entry other f hentry hother => ?_
  cases entry with
  | protocol => cases hentry
  | field f =>
      cases hentry
      cases other with
      | protocol => cases hother
      | field g =>
          cases hother
          rfl

/-- **A fault that is told** is read, with an error rate that is numerically the same. -/
theorem readFault_of_tells {node : Node} (h : TellsFault node fault) :
    ∃ rate : Binary64, rate.Same fault.errorRate ∧
      readFault document node = pure { fault with errorRate := rate } := by
  obtain ⟨tag, entries, fields, rfl, htag, htells, husual⟩ := h
  have hprotocol : .protocol ∈ fields := Decidable.byContradiction fun hno => husual _ hno
  have hnone : (none : Option Protocol).isSome → .protocol ∉ fields := fun hsome => by cases hsome
  have hempty : (emptyFault fault.protocol).protocol = fault.protocol := by
    cases fault.protocol <;> rfl
  obtain ⟨contents, hsplit, hcontents⟩ := splitEntries_of_tells document htells hnone
  obtain ⟨found, hfound, hfoundProtocol, hagrees⟩ :=
    FaultField.withEntries_of_gives hcontents (nodup_filterMap_field? htells.nodup) []
      (fun _ _ => List.not_mem_nil) hempty
  have hall : ∀ f : FaultField, f.Agrees fault found := by
    intro f
    apply hagrees f
    rw [mem_filterMap_field?_iff]
    by_cases hf : .field f ∈ fields
    · exact Or.inl hf
    · exact Or.inr (FaultField.agrees_emptyFault (husual _ hf))
  refine ⟨found.errorRate, hall .errorRate, ?_⟩
  have hentries : readFaultEntries document entries = pure found := by
    rw [readFaultEntries, hsplit, if_pos hprotocol, pure_bind]
    simp only [hfound]
    rfl
  rw [readFault, follow_mapping, pure_bind]
  simp only [htag, hentries]
  rw [← FaultField.eq_of_agrees hfoundProtocol hall]
  rfl

end

/-! ## Faults that are refused -/

section

variable {document : Document} {node : Node} {left left' : ℕ}

/-- A scalar with the key of the protocol stands for that key, or for nothing at all. -/
theorem atomOfScalar_protocolKey {tag : Option String} {style : Style} {atom : Atom}
    (h : atomOfScalar tag style protocolKey = .ok atom) : atom = .text protocolKey := by
  have hbool : readBool protocolKey = none := by decide
  have hwhole : Yaml.readWhole protocolKey.toList = none := by decide +kernel
  have hreal : Yaml.readReal protocolKey.toList = none := by decide +kernel
  have hnull : isNull protocolKey = false := by decide
  have hatom : atomOf protocolKey = .text protocolKey := by decide +kernel
  simp only [atomOfScalar, hbool, hwhole, hreal, hnull, hatom, ite_self, Option.map_none] at h
  split at h
  · exact (Except.ok.inj h).symm
  · split at h
    · cases h
    · split at h
      · cases h
      · split at h
        · cases h
        · split at h
          · cases h
          · exact (Except.ok.inj h).symm

/-- A scalar is buffered as the key of the protocol exactly if that is its text. -/
theorem bufferScalar_protocolKey_iff {expected text : String} {tag : Option String} {style : Style}
    {atom : Atom} (h : bufferScalar expected tag style text = .ok atom) :
    atom = .text protocolKey ↔ text = protocolKey := by
  unfold bufferScalar at h
  split at h
  · cases h
  · split at h
    · cases h
    · next a ha =>
      have hsame : a = atom := by
        unfold Atom.checked at h
        split at h
        · split at h
          · cases h
          · exact Except.ok.inj h
        · exact Except.ok.inj h
      subst hsame
      constructor
      · rintro rfl
        exact atomOfScalar_eq_text ha
      · rintro rfl
        exact atomOfScalar_protocolKey ha

/-- Buffering a scalar, however it is reached. -/
theorem buffered_scalar_iff {expected text : String} {tag : Option String} {style : Style}
    {content : Content} {mid : ℕ} (hfollow : (document.follow node).run left =
      .ok (.scalar tag style text, mid))
    (h : (do return .atom (← bufferScalar expected tag style text) : Reading Content).run mid =
      .ok (content, left')) :
    content = .atom (.text protocolKey) ↔ document.Says node protocolKey := by
  obtain ⟨atom, _, hscalar, hcontent⟩ := run_bind_eq_ok_iff.mp h
  obtain ⟨hscalar, -⟩ := run_liftM_eq_ok_iff.mp hscalar
  obtain ⟨rfl, -⟩ := run_pure_eq_ok_iff.mp hcontent
  have hsaid : document.Says node text :=
    ⟨tag, style, leads_of_leads_follow hfollow (.here fun _ hnode => by cases hnode)
      fun hcut => by cases hcut⟩
  rw [Content.atom.injEq, bufferScalar_protocolKey_iff hscalar]
  constructor
  · rintro rfl
    exact hsaid
  · exact hsaid.eq

/-- A node is buffered as the key of the protocol exactly if it says so. -/
theorem buffer_protocolKey_iff {depth : ℕ} {content : Content}
    (h : (document.buffer (depth + 1) node).run left = .ok (content, left')) :
    content = .atom (.text protocolKey) ↔ document.Says node protocolKey := by
  rw [buffer_succ] at h
  obtain ⟨found, mid, hfollow, hread⟩ := run_bind_eq_ok_iff.mp h
  have hsaid : document.Says node protocolKey → document.Says found protocolKey := by
    rintro ⟨tag, style, hleads⟩
    exact ⟨tag, style, leads_of_follow hfollow hleads⟩
  cases found with
  | scalar tag style text => exact buffered_scalar_iff hfollow hread
  | sequence | mapping =>
      refine iff_of_false ?_ fun h => ?_
      · rintro rfl
        dsimp only at hread
        split at hread
        · exact run_throw_ne_ok hread
        · obtain ⟨_, _, -, hcontent⟩ := run_bind_eq_ok_iff.mp hread
          cases (run_pure_eq_ok_iff.mp hcontent).1
      · obtain ⟨_, _, hleads⟩ := hsaid h
        cases hleads
  | «alias» | cut => exact absurd hread run_throw_ne_ok

theorem bufferKey_protocolKey_iff {key : Content}
    (h : (bufferKey document node).run left = .ok (key, left')) :
    key = .atom (.text protocolKey) ↔ document.Says node protocolKey := by
  obtain ⟨found, mid, hfollow, hread⟩ := run_bind_eq_ok_iff.mp h
  cases found with
  | scalar tag style text => exact buffered_scalar_iff hfollow hread
  | sequence | mapping | «alias» | cut =>
      rw [buffer_protocolKey_iff hread]
      constructor
      · rintro ⟨tag, style, hleads⟩
        exact ⟨tag, style, leads_of_leads_follow hfollow hleads fun hcut => by cases hcut⟩
      · rintro ⟨tag, style, hleads⟩
        exact ⟨tag, style, leads_of_follow hfollow hleads⟩

theorem says_of_readProtocol {p : Protocol}
    (h : (readProtocol document node).run left = .ok (p, left')) : document.Says node p.name := by
  obtain ⟨name, mid, hname, hread⟩ := run_bind_eq_ok_iff.mp h
  split at hread
  · next q hq =>
    obtain ⟨rfl, -⟩ := run_pure_eq_ok_iff.mp hread
    exact Protocol.ofName?_eq_some_iff.mp hq ▸ says_of_readText hname
  · exact absurd hread run_throw_ne_ok

/-- **Entries that are read** name the protocol where it is found, and wherever it is named it is
one that there is. -/
theorem splitEntries_eq_ok {entries : List (Node × Node)} {known found : Option Protocol}
    {contents : List (Content × Content)}
    (h : (splitEntries document known entries).run left = .ok ((found, contents), left')) :
    (found.isSome → known.isSome ∨ ∃ entry ∈ entries, document.Says entry.1 protocolKey) ∧
      ∀ entry ∈ entries, document.Says entry.1 protocolKey →
        ∃ p : Protocol, document.Says entry.2 p.name := by
  induction entries generalizing known found contents left left' with
  | nil =>
      obtain ⟨hfound, -⟩ := run_pure_eq_ok_iff.mp h
      cases hfound
      exact ⟨Or.inl, fun _ hmem => absurd hmem List.not_mem_nil⟩
  | cons entry entries ih =>
      obtain ⟨k, v⟩ := entry
      rw [splitEntries] at h
      obtain ⟨key, mid, hkey, h⟩ := run_bind_eq_ok_iff.mp h
      have hsaid := bufferKey_protocolKey_iff hkey
      split at h
      · split at h
        · exact absurd h run_throw_ne_ok
        · obtain ⟨p, mid', hp, h⟩ := run_bind_eq_ok_iff.mp h
          have hk : document.Says k protocolKey := hsaid.mp rfl
          have hv : document.Says v p.name := says_of_readProtocol hp
          refine ⟨fun _ => Or.inr ⟨_, List.mem_cons_self, hk⟩, ?_⟩
          rw [List.forall_mem_cons]
          exact ⟨fun _ => ⟨p, hv⟩, (ih h).2⟩
      · next hno =>
        obtain ⟨value, mid', -, h⟩ := run_bind_eq_ok_iff.mp h
        obtain ⟨⟨found', contents'⟩, mid'', hsplit, h⟩ := run_bind_eq_ok_iff.mp h
        obtain ⟨hfound, -⟩ := run_pure_eq_ok_iff.mp h
        cases hfound
        obtain ⟨hsome, hall⟩ := ih hsplit
        refine ⟨fun hfound => (hsome hfound).imp_right ?_, List.forall_mem_cons.mpr ⟨?_, hall⟩⟩
        · rintro ⟨entry, hmem, hentry⟩
          exact ⟨entry, List.mem_cons_of_mem _ hmem, hentry⟩
        · exact fun hk => absurd (hsaid.mpr hk) hno

/-- **A mapping that is read as a fault** names a protocol, and names it properly. -/
theorem readFault_eq_ok {fault : Fault UInt64} {tag : Option String} {entries : List (Node × Node)}
    (h : (readFault document node).run left = .ok (fault, left'))
    (hleads : document.Leads node (.mapping tag entries)) :
    (∃ entry ∈ entries, document.Says entry.1 protocolKey) ∧
      ∀ entry ∈ entries, document.Says entry.1 protocolKey →
        ∃ p : Protocol, document.Says entry.2 p.name := by
  rw [readFault] at h
  obtain ⟨found, mid, hfollow, h⟩ := run_bind_eq_ok_iff.mp h
  rcases eq_mapping_of_follow hfollow hleads with rfl | ⟨number, rfl⟩
  · dsimp only at h
    split at h
    · exact absurd h run_throw_ne_ok
    · obtain ⟨⟨protocol, contents⟩, mid', hsplit, h⟩ := run_bind_eq_ok_iff.mp h
      obtain ⟨hsome, hall⟩ := splitEntries_eq_ok hsplit
      cases protocol with
      | none => exact absurd h run_throw_ne_ok
      | some p => exact ⟨(hsome rfl).resolve_left fun hnone => (by cases hnone), hall⟩
  · exact absurd h run_throw_ne_ok

end

end FaultInjection.Experiment

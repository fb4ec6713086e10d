import FaultInjection.Proofs.Kube.Traffic
import FaultInjection.Proofs.Text.Keyed
import FaultInjection.Rehearsal

/-!
# Selection

The pods of a selector are told by their labels alone (`Selector.Wants`), and a cluster and a
rehearsal list them alike (`Selector.Exact`, `exact_selection`).  A cluster may list other pods
besides, so it does not matter whether it knows about labels.  A selector is refused exactly if it
has no namespace and wants all pods.
-/

namespace FaultInjection

open Text

/-! ## Labels as pairs -/

theorem Labels.has_iff {labels : Labels} {pair : String × String} :
    labels.has pair = true ↔ pair ∈ labels.pairs := by
  rw [Labels.has, beq_iff_eq, Labels.get?, labels.ascending.get?_eq_some_iff]

/-! ## Wanted pods -/

namespace Selector

/-- **A pod with these labels is wanted**: they hold all pairs to select and none to exclude. -/
def Wants (s : Selector) (labels : Labels) : Prop :=
  (∀ pair ∈ s.select.pairs, pair ∈ labels.pairs) ∧ ∀ pair ∈ s.exclude.pairs, pair ∉ labels.pairs

instance (s : Selector) (labels : Labels) : Decidable (s.Wants labels) :=
  inferInstanceAs (Decidable (_ ∧ _))

/-- The names of the wanted pods among some pods, in their order. -/
def chosen (s : Selector) (pods : List (String × Labels)) : List String :=
  (pods.filter fun p => s.Wants p.2).map (·.1)

/-- What is listed holds the wanted pods in their order, and perhaps pods that are not wanted. -/
def Covers (s : Selector) (pods listed : List (String × Labels)) : Prop :=
  (listed.filter fun p => s.Wants p.2) = pods.filter fun p => s.Wants p.2

/-- Nothing is left to choose: there is no namespace, and the filter passes all labels. -/
def WantsAll (s : Selector) : Prop := s.scope = "" ∧ ∀ labels, s.filter.passes labels = true

variable {s : Selector} {pods listed : List (String × Labels)}

/-- The filter passes the wanted pods. -/
theorem passes_filter (s : Selector) (labels : Labels) :
    s.filter.passes labels = decide (s.Wants labels) := by
  rw [Bool.eq_iff_iff, decide_eq_true_iff]
  simp [filter, Filter.passes, Wants, Labels.has_iff]

theorem chosen_of_covers (h : s.Covers pods listed) : s.chosen listed = s.chosen pods := by
  rw [chosen, chosen, h]

/-- Pods that are listed whole are covered, -/
theorem covers_self (s : Selector) (pods : List (String × Labels)) : s.Covers pods pods := rfl

/-- and so are pods that are listed with the labels to select only. -/
theorem covers_selected (s : Selector) (pods : List (String × Labels)) :
    s.Covers pods (pods.filter fun p => ∀ pair ∈ s.select.pairs, pair ∈ p.2.pairs) := by
  rw [Covers, List.filter_filter]
  apply List.filter_congr
  intro p _
  rw [Bool.eq_iff_iff, Bool.and_eq_true, decide_eq_true_iff, decide_eq_true_iff]
  exact ⟨fun h => h.1, fun h => ⟨h, h.1⟩⟩

/-! ## Refusals -/

/-- Only without labels to select and without labels to exclude all pods are wanted. -/
theorem wantsAll_iff : s.WantsAll ↔ s.isUnrestricted = true := by
  have hall : (∀ labels, s.Wants labels) ↔ s.select.pairs = [] ∧ s.exclude.pairs = [] := by
    constructor
    · intro h
      constructor
      · -- A pod without labels has none of those to select,
        rw [List.eq_nil_iff_forall_not_mem]
        intro pair hpair
        exact List.not_mem_nil ((h Labels.empty).1 pair hpair)
      · -- and one with the labels to exclude has all of these.
        rw [List.eq_nil_iff_forall_not_mem]
        intro pair hpair
        exact (h s.exclude).2 pair hpair hpair
    · rintro ⟨hselect, hexclude⟩ labels
      simp [Wants, hselect, hexclude]
  simp only [WantsAll, passes_filter, decide_eq_true_iff, hall]
  simp [isUnrestricted, Labels.isEmpty, and_assoc]

/-- The failure of a selector that asks for nothing. -/
def emptySelector : Failure :=
  .selector "namespace, select and exclude attributes in pod selector cannot all be empty"

theorem targets_of_wantsAll {ω : Type} (h : s.WantsAll) (access : PodAccess ω) (world : ω) :
    s.targets access world = (.error emptySelector, world) := by
  rw [targets, validate, if_pos (wantsAll_iff.mp h)]
  rfl

/-- Any other selector leaves it to the cluster to list its pods. -/
theorem targets_of_not_wantsAll {ω : Type} (h : ¬ s.WantsAll) (access : PodAccess ω) (world : ω) :
    s.targets access world = access.list s.filter world := by
  rw [targets, validate, if_neg (mt wantsAll_iff.mpr h)]

/-! ## Lists -/

/-- A rehearsal lists the wanted pods. -/
theorem targets_rehearsal (h : ¬ s.WantsAll) (scope : String) (pods : List (String × Labels))
    (r : Rehearsal) :
    s.targets (Rehearsal.access scope pods) r = (.ok (s.chosen pods), r.record .list) := by
  rw [targets_of_not_wantsAll h]
  simp only [Rehearsal.access, passes_filter, chosen]

/-- The name and the labels of a pod. -/
def entry (pod : Kube.Pod) : String × Labels := (pod.name, pod.labels)

/-- So does a cluster, whatever it lists besides. -/
theorem targets_cluster (h : ¬ s.WantsAll) {scope : String} {server : Kube.Server}
    {found : List Kube.Pod}
    (hreply : (server.ask Kube.Pod.listOfJson? "GET" (Kube.listTarget scope s.filter) none none).1 =
      .ok found) (hcovers : s.Covers pods (found.map entry)) :
    (s.targets (Kube.access scope) server).1 = .ok (s.chosen pods) := by
  rw [targets_of_not_wantsAll h, ← chosen_of_covers hcovers]
  show (Kube.listPods scope s.filter server).1 = _
  rw [Kube.listPods_eq]
  simp only [hreply, passes_filter, chosen, List.filter_map, List.map_map]
  rfl

/-- The only other failures are those of the cluster. -/
theorem error_of_cluster {scope : String} {server : Kube.Server} {failure : Failure}
    (h : ¬ s.WantsAll) (hfailure : (s.targets (Kube.access scope) server).1 = .error failure) :
    ∃ e, failure = .cluster e := by
  rw [targets_of_not_wantsAll h] at hfailure
  change (Kube.listPods scope s.filter server).1 = _ at hfailure
  rw [Kube.listPods_eq] at hfailure
  dsimp only at hfailure
  cases hreply : (server.ask Kube.Pod.listOfJson? "GET" (Kube.listTarget scope s.filter) none
      none).1 with
  | error e =>
      rw [hreply] at hfailure
      exact ⟨e, (Except.error.inj hfailure).symm⟩
  | ok found =>
      rw [hreply] at hfailure
      cases hfailure

/-! ## Exact selection -/

/-- **A selector selects exactly** the pods that it wants among these, whoever lists them. -/
structure Exact (s : Selector) (pods : List (String × Labels)) : Prop where
  /-- A rehearsal lists the names of the wanted pods, in the order of the pods. -/
  rehearsed : ¬ s.WantsAll → ∀ scope r,
    s.targets (Rehearsal.access scope pods) r = (.ok (s.chosen pods), r.record .list)
  /-- So does a cluster whose reply holds the wanted pods in this order, whatever else it holds. -/
  listed : ¬ s.WantsAll → ∀ scope server found,
    (server.ask Kube.Pod.listOfJson? "GET" (Kube.listTarget scope s.filter) none none).1 =
      .ok found → s.Covers pods (found.map entry) →
    (s.targets (Kube.access scope) server).1 = .ok (s.chosen pods)
  /-- Such a reply holds all pods, -/
  whole : s.Covers pods pods
  /-- or only those with the labels to select. -/
  selected : s.Covers pods (pods.filter fun p => ∀ pair ∈ s.select.pairs, pair ∈ p.2.pairs)
  /-- A selector without a namespace that wants all pods is refused, and nothing is asked. -/
  refused : s.WantsAll → ∀ {ω : Type} (access : PodAccess ω) (world : ω),
    s.targets access world = (.error (.selector
      "namespace, select and exclude attributes in pod selector cannot all be empty"), world)
  /-- No other selector is refused in a rehearsal, -/
  onlyRehearsed : ∀ scope r cause,
    (s.targets (Rehearsal.access scope pods) r).1 = .error (.selector cause) → s.WantsAll
  /-- or by a cluster. -/
  onlyListed : ∀ scope server cause,
    (s.targets (Kube.access scope) server).1 = .error (.selector cause) → s.WantsAll

end Selector

/-- **Selection is exact.**  Every selector, unless it is refused, selects the pods whose labels hold
all pairs to select and none to exclude, in the order in which they are listed, by a rehearsal or by
a cluster that may list others besides.  It is refused exactly if it has no namespace and its filter
passes all labels. -/
theorem exact_selection (s : Selector) (pods : List (String × Labels)) : s.Exact pods where
  rehearsed h scope r := Selector.targets_rehearsal h scope pods r
  listed h _ _ _ hreply hcovers := Selector.targets_cluster h hreply hcovers
  whole := Selector.covers_self s pods
  selected := Selector.covers_selected s pods
  refused h _ access world := Selector.targets_of_wantsAll h access world
  onlyRehearsed := by
    intro scope r cause hrefused
    by_contra h
    rw [Selector.targets_rehearsal h] at hrefused
    cases hrefused
  onlyListed := by
    intro scope server cause hrefused
    by_contra h
    obtain ⟨e, he⟩ := Selector.error_of_cluster h hrefused
    cases he

/-! ## A cluster that knows nothing about labels -/

section

open Kube

/-- The pods of the namespace `n` with the label `k=v`. -/
def labelledSelector : Selector := ⟨"n", .ofList [("k", "v")], .empty⟩

/-- Two pods, of which the second one is wanted. -/
def labelledPods : List (String × Labels) := [("a", .empty), ("b", .ofList [("k", "v")])]

/-- A list of both. -/
def labelledList : Reply := ⟨200, "\x7b\"items\":[\x7b\"metadata\":\x7b\"name\":\"a\"\x7d\x7d,"
  ++ "\x7b\"metadata\":\x7b\"labels\":\x7b\"k\":\"v\"\x7d,\"name\":\"b\"\x7d\x7d]\x7d"⟩

/-- A server that always lists both. -/
def labelledServer : Server where
  replies := ⟨[(⟨"GET", "/api/v1/namespaces/n/pods"⟩, [labelledList])]⟩
  sessions := []
  reachable := true
  requests := []

theorem ask_labelledServer : (labelledServer.ask Pod.listOfJson? "GET"
    (listTarget "n" labelledSelector.filter) none none).1 =
      .ok (labelledPods.map fun p => ⟨p.1, p.2, []⟩) := by
  decide +kernel

/-- The second pod is selected although the first one is listed, too. -/
theorem selection_labelled :
    (labelledSelector.targets (access "n") labelledServer).1 = .ok ["b"] := by
  have hnot : ¬ labelledSelector.WantsAll := fun h => absurd h.1 (by decide)
  refine ((exact_selection labelledSelector labelledPods).listed hnot "n" labelledServer _
    ask_labelledServer ?_).trans ?_
  · exact (exact_selection labelledSelector labelledPods).whole
  · decide +kernel

end

end FaultInjection

import FaultInjection.Text.Keyed
import Mathlib.Data.List.Nodup

/-!
# What sorted entries hold

Sorting a list of entries keeps the last entry of each key (`get?_ofList`).  Where no key comes
twice nothing is lost, whatever the order was (`ofList_of_perm`).
-/

namespace FaultInjection.Text.Keyed

variable {α β : Type} {key : String} {value : α} {entries : List (String × α)}

/-! ## The last entry of a key -/

theorem get?_append (a b : List (String × α)) :
    get? key (a ++ b) = (get? key a).or (get? key b) := by
  rw [get?, List.find?_append, Option.map_or]
  rfl

/-- Entries that are put in one by one hide what was there, and each other. -/
theorem get?_foldl_insert (key : String) (entries acc : List (String × α)) :
    get? key (entries.foldl (fun acc e => insert e.1 e.2 acc) acc) =
      get? key (entries.reverse ++ acc) := by
  induction entries generalizing acc with
  | nil => rfl
  | cons e r ih =>
      have hinsert : get? key (insert e.1 e.2 acc) = get? key (e :: acc) := by
        rw [get?_insert, get?_cons]
        simp only [eq_comm]
      rw [List.foldl_cons, ih, get?_append, hinsert, ← get?_append]
      simp

/-- A sorted list holds what the last entry of each key held. -/
theorem get?_ofList (key : String) (entries : List (String × α)) :
    get? key (ofList entries) = get? key entries.reverse := by
  rw [ofList, get?_foldl_insert, List.append_nil]

/-- What a key holds is what the first of some things says that says anything of it. -/
theorem get?_filterMap {f : β → Option (String × α)} {xs : List β} :
    get? key (xs.filterMap f) = some value ↔
      ∃ before x after, xs = before ++ x :: after ∧ f x = some (key, value) ∧
        ∀ y ∈ before, ∀ other, f y ≠ some (key, other) := by
  have hother : ∀ y, (f y).any (fun e => e.1 = key) = false ↔ ∀ other, f y ≠ some (key, other) := by
    intro y
    cases f y <;> simp [Prod.ext_iff]
  simp only [get?, List.find?_filterMap, Option.map_eq_some_iff, Option.bind_eq_some_iff,
    List.find?_eq_some_iff_append]
  constructor
  · rintro ⟨⟨key', _⟩, ⟨x, ⟨hx, before, after, rfl, hbefore⟩, hf⟩, rfl⟩
    rw [hf, Option.any_some, decide_eq_true_eq] at hx
    subst hx
    refine ⟨before, x, after, rfl, hf, fun y hy => (hother y).mp ?_⟩
    simpa using hbefore y hy
  · rintro ⟨before, x, after, rfl, hf, hbefore⟩
    refine ⟨(key, value), ⟨x, ⟨by simp [hf], before, after, rfl, fun y hy => ?_⟩, hf⟩, rfl⟩
    rw [(hother y).mpr (hbefore y hy)]
    rfl

/-- After sorting it is the last of them. -/
theorem get?_ofList_filterMap {f : β → Option (String × α)} {xs : List β} :
    get? key (ofList (xs.filterMap f)) = some value ↔
      ∃ before x after, xs = before ++ x :: after ∧ f x = some (key, value) ∧
        ∀ y ∈ after, ∀ other, f y ≠ some (key, other) := by
  rw [get?_ofList, ← List.filterMap_reverse, get?_filterMap]
  constructor
  · rintro ⟨after, x, before, hsplit, hf, hafter⟩
    refine ⟨before.reverse, x, after.reverse, ?_, hf, by simpa using hafter⟩
    rw [← List.reverse_reverse xs, hsplit]
    simp
  · rintro ⟨before, x, after, rfl, hf, hafter⟩
    exact ⟨after.reverse, x, before.reverse, by simp, hf, by simpa using hafter⟩

/-- Something is held at each key of which something is said. -/
theorem isSome_get?_ofList_filterMap {f : β → Option (String × α)} {xs : List β} :
    (get? key (ofList (xs.filterMap f))).isSome ↔ ∃ x ∈ xs, ∃ value, f x = some (key, value) := by
  rw [get?_ofList, get?, Option.isSome_map, List.find?_isSome]
  simp only [List.mem_reverse, List.mem_filterMap, decide_eq_true_eq, Prod.exists]
  constructor
  · rintro ⟨_, value, ⟨x, hx, hf⟩, rfl⟩
    exact ⟨x, hx, value, hf⟩
  · rintro ⟨x, hx, value, hf⟩
    exact ⟨key, value, ⟨x, hx, hf⟩, rfl⟩

/-! ## Entries with different keys -/

/-- Where no key comes twice, an entry is what its key holds. -/
theorem get?_eq_some_iff (h : (entries.map (·.1)).Nodup) :
    get? key entries = some value ↔ (key, value) ∈ entries := by
  induction entries with
  | nil => simp
  | cons e r ih =>
      rw [List.map_cons, List.nodup_cons] at h
      rw [get?_cons, List.mem_cons]
      by_cases hkey : e.1 = key
      · subst hkey
        have hnone : (e.1, value) ∉ r := fun hmem => h.1 (List.mem_map.mpr ⟨_, hmem, rfl⟩)
        simp [hnone, Prod.ext_iff, eq_comm]
      · have hne : (key, value) ≠ e := by
          rintro rfl
          exact hkey rfl
        rw [if_neg hkey, ih h.2]
        simp [hne]

theorem Ascending.nodup_keys (h : Ascending entries) : (entries.map (·.1)).Nodup := by
  refine List.pairwise_map.mpr (h.imp fun {d e} hlt heq => ?_)
  rw [heq] at hlt
  exact String.lt_irrefl _ hlt

/-- In an ascending list an entry is what its key holds. -/
theorem Ascending.get?_eq_some_iff (h : Ascending entries) :
    get? key entries = some value ↔ (key, value) ∈ entries :=
  Keyed.get?_eq_some_iff h.nodup_keys

/-- **Sorting** gives the entries back, in whatever order they come. -/
theorem ofList_of_perm {other : List (String × α)} (h : Ascending entries)
    (hperm : other.Perm entries) : ofList other = entries := by
  apply (ascending_ofList other).eq_of_get? h
  intro key
  have hreverse : other.reverse.Perm entries := (List.reverse_perm other).trans hperm
  have hnodup : (other.reverse.map (·.1)).Nodup := (hreverse.map _).nodup_iff.mpr h.nodup_keys
  ext value
  rw [get?_ofList, Keyed.get?_eq_some_iff hnodup, h.get?_eq_some_iff, hreverse.mem_iff]

/-- Sorting does nothing to a list that is sorted, -/
theorem ofList_of_ascending (h : Ascending entries) : ofList entries = entries :=
  ofList_of_perm h (List.Perm.refl entries)

/-- and it never adds an entry. -/
theorem mem_of_mem_ofList {e : String × α} (h : e ∈ ofList entries) : e ∈ entries := by
  rw [← (ascending_ofList entries).get?_eq_some_iff, get?_ofList, get?, Option.map_eq_some_iff] at h
  obtain ⟨found, hfound, hvalue⟩ := h
  have hkey : found.1 = e.1 := by simpa using List.find?_some hfound
  have hsame : found = e := Prod.ext hkey hvalue
  rw [← hsame]
  exact List.mem_reverse.mp (List.mem_of_find?_eq_some hfound)

end FaultInjection.Text.Keyed

/-!
# Entries sorted by key

Lists of key and value in ascending order of the keys, each key once. Such a list is determined by
what it holds at each key.
-/

namespace FaultInjection.Text.Keyed

variable {α : Type}

/-- Each key is before the keys that follow it. -/
def Ascending (entries : List (String × α)) : Prop := entries.Pairwise (·.1 < ·.1)

/-- What the first entry of a key holds. -/
def get? (key : String) (entries : List (String × α)) : Option α :=
  (entries.find? (·.1 = key)).map (·.2)

/-- The entries with one more, which replaces the entry of the same key. -/
def insert (key : String) (value : α) : List (String × α) → List (String × α)
  | [] => [(key, value)]
  | e :: r =>
    if key < e.1 then (key, value) :: e :: r
    else if key = e.1 then (key, value) :: r
    else e :: insert key value r

/-- The entries of any list, sorted; the last entry of a key stays. -/
def ofList (entries : List (String × α)) : List (String × α) :=
  entries.foldl (fun acc e => insert e.1 e.2 acc) []

/-! ## Reading -/

@[simp] theorem get?_nil (key : String) : get? key ([] : List (String × α)) = none := rfl

theorem get?_cons (key : String) (e : String × α) (r : List (String × α)) :
    get? key (e :: r) = if e.1 = key then some e.2 else get? key r := by
  unfold get?
  by_cases h : e.1 = key <;> simp [h]

/-- A key before all keys of the list has no entry. -/
theorem get?_eq_none_of_forall_lt {key : String} {entries : List (String × α)}
    (h : ∀ e ∈ entries, key < e.1) : get? key entries = none := by
  induction entries with
  | nil => rfl
  | cons e r ih =>
    have hne : e.1 ≠ key := fun he => String.lt_irrefl key (he ▸ h e List.mem_cons_self)
    rw [get?_cons, if_neg hne]
    exact ih fun e he => h e (List.mem_cons_of_mem _ he)

/-- An inserted entry is found, and the other keys keep theirs. -/
theorem get?_insert (k key : String) (value : α) (entries : List (String × α)) :
    get? k (insert key value entries) = if k = key then some value else get? k entries := by
  induction entries with
  | nil => simp only [insert, get?_cons, get?_nil, eq_comm]
  | cons e r ih =>
    unfold insert
    split
    · simp only [get?_cons, eq_comm]
    · split
      · next he =>
        simp only [get?_cons, ← he]
        by_cases h : k = key
        · simp [h]
        · simp [h, Ne.symm h]
      · next he =>
        simp only [get?_cons, ih]
        by_cases h : e.1 = k
        · subst h
          simp [Ne.symm he]
        · simp [h]

/-! ## Order -/

theorem mem_insert {key : String} {value : α} {entries : List (String × α)} {e : String × α}
    (h : e ∈ insert key value entries) : e = (key, value) ∨ e ∈ entries := by
  induction entries with
  | nil => simpa [insert] using h
  | cons d r ih =>
    unfold insert at h
    split at h
    · simpa using h
    · split at h
      · rcases List.mem_cons.1 h with h | h
        · exact .inl h
        · exact .inr (List.mem_cons_of_mem _ h)
      · rcases List.mem_cons.1 h with h | h
        · exact .inr (h ▸ List.mem_cons_self)
        · rcases ih h with h | h
          · exact .inl h
          · exact .inr (List.mem_cons_of_mem _ h)

private theorem lt_of_not_lt_of_ne {a b : String} (h : ¬a < b) (hne : a ≠ b) : b < a := by
  rcases Decidable.em (b < a) with hb | hb
  · exact hb
  · exact absurd (String.le_antisymm (String.not_lt.1 hb) (String.not_lt.1 h)) hne

theorem ascending_nil : Ascending ([] : List (String × α)) := .nil

/-- Insertion keeps the order. -/
theorem Ascending.insert {entries : List (String × α)} (h : Ascending entries) (key : String)
    (value : α) : Ascending (Keyed.insert key value entries) := by
  induction entries with
  | nil => simp [Keyed.insert, Ascending]
  | cons e r ih =>
    obtain ⟨he, hr⟩ := List.pairwise_cons.1 h
    unfold Keyed.insert
    split
    · next hlt =>
      refine List.pairwise_cons.2 ⟨fun d hd => ?_, h⟩
      rcases List.mem_cons.1 hd with rfl | hd
      · exact hlt
      · exact String.lt_trans hlt (he d hd)
    · next hlt =>
      split
      · next heq => exact List.pairwise_cons.2 ⟨fun d hd => heq ▸ he d hd, hr⟩
      · next hne =>
        refine List.pairwise_cons.2 ⟨fun d hd => ?_, ih hr⟩
        rcases mem_insert hd with rfl | hd
        · exact lt_of_not_lt_of_ne hlt hne
        · exact he d hd

theorem ascending_foldl {acc : List (String × α)} (h : Ascending acc)
    (entries : List (String × α)) :
    Ascending (entries.foldl (fun acc e => Keyed.insert e.1 e.2 acc) acc) := by
  induction entries generalizing acc with
  | nil => exact h
  | cons e r ih => exact ih (h.insert e.1 e.2)

/-- `ofList` sorts. -/
theorem ascending_ofList (entries : List (String × α)) : Ascending (ofList entries) :=
  ascending_foldl ascending_nil entries

/-- Sorted lists that hold the same at every key are equal. -/
theorem Ascending.eq_of_get? {a b : List (String × α)} (ha : Ascending a) (hb : Ascending b)
    (h : ∀ key, get? key a = get? key b) : a = b := by
  induction a generalizing b with
  | nil =>
    cases b with
    | nil => rfl
    | cons e r => simpa [get?_cons] using h e.1
  | cons d a ih =>
    cases b with
    | nil => simpa [get?_cons] using h d.1
    | cons e b =>
      obtain ⟨hd, hta⟩ := List.pairwise_cons.1 ha
      obtain ⟨he, htb⟩ := List.pairwise_cons.1 hb
      have hkey : d.1 = e.1 := by
        rcases Decidable.em (d.1 = e.1) with hk | hk
        · exact hk
        · rcases Decidable.em (d.1 < e.1) with hlt | hlt
          · have hnone : get? d.1 (e :: b) = none := by
              refine get?_eq_none_of_forall_lt fun f hf => ?_
              rcases List.mem_cons.1 hf with rfl | hf
              · exact hlt
              · exact String.lt_trans hlt (he f hf)
            rw [← h d.1, get?_cons] at hnone
            simp at hnone
          · have hgt := lt_of_not_lt_of_ne hlt hk
            have hnone : get? e.1 (d :: a) = none := by
              refine get?_eq_none_of_forall_lt fun f hf => ?_
              rcases List.mem_cons.1 hf with rfl | hf
              · exact hgt
              · exact String.lt_trans hgt (hd f hf)
            rw [h e.1, get?_cons] at hnone
            simp at hnone
      have hval : d.2 = e.2 := by simpa [get?_cons, hkey] using h d.1
      have hhead : d = e := Prod.ext hkey hval
      subst hhead
      congr 1
      refine ih hta htb fun key => ?_
      by_cases hk : d.1 = key
      · subst hk
        rw [get?_eq_none_of_forall_lt hd, get?_eq_none_of_forall_lt he]
      · simpa [get?_cons, hk] using h key

end FaultInjection.Text.Keyed

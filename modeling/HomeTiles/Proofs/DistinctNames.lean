import HomeTiles.Entries
import Mathlib.Data.List.Nodup

/-!
# Entries with distinct names

Where no name stands twice, looking a name up, putting, taking out and merging
act as on a map: `get?_erase` and `get?_merge` say what is found afterwards, and
`ext_get?` that the order of the names and what stands under them are all that
there is to entries. Putting and merging keep the names distinct.
-/

namespace HomeTiles.Entries

variable {α β : Type}

attribute [local simp] get? put erase

/-! ## Looking a name up -/

@[simp] theorem names_nil : names ([] : Entries α) = [] := rfl

@[simp] theorem names_cons (k : String) (v : α) (rest : Entries α) : names ((k, v) :: rest) = k :: names rest := rfl

theorem names_append (a b : Entries α) : names (a ++ b) = names a ++ names b := List.map_append

theorem get?_eq_none_iff {entries : Entries α} {key : String} : get? entries key = none ↔ key ∉ names entries := by
  induction entries with
  | nil => simp
  | cons entry rest ih =>
    obtain ⟨k, v⟩ := entry
    by_cases here : k = key
    · simp [here]
    · simp [here, ih, Ne.symm here]

theorem mem_of_get? {entries : Entries α} {key : String} {v : α} (found : get? entries key = some v) :
    (key, v) ∈ entries := by
  induction entries with
  | nil => cases found
  | cons entry rest ih =>
    obtain ⟨k, w⟩ := entry
    by_cases here : k = key
    · simp only [get?, here, if_true, Option.some.injEq] at found
      rw [here, found]
      exact List.mem_cons_self
    · simp only [get?, here, if_false] at found
      exact List.mem_cons_of_mem _ (ih found)

theorem get?_of_mem {entries : Entries α} (distinct : (names entries).Nodup) {key : String} {v : α}
    (inside : (key, v) ∈ entries) : get? entries key = some v := by
  induction entries with
  | nil => cases inside
  | cons entry rest ih =>
    obtain ⟨k, w⟩ := entry
    rw [names_cons, List.nodup_cons] at distinct
    rcases List.mem_cons.mp inside with same | later
    · cases same
      simp
    · have other : k ≠ key := by
        rintro rfl
        exact distinct.1 (List.mem_map.mpr ⟨_, later, rfl⟩)
      simp only [get?, other, if_false]
      exact ih distinct.2 later

/-- The names in order and what stands under them determine the entries. -/
theorem ext_get? {a b : Entries α} (distinct : (names a).Nodup) (order : names a = names b)
    (same : ∀ key, get? a key = get? b key) : a = b := by
  induction a generalizing b with
  | nil => exact (List.map_eq_nil_iff.mp order.symm).symm
  | cons entry rest ih =>
    obtain ⟨k, v⟩ := entry
    cases b with
    | nil => cases order
    | cons entry' rest' =>
      obtain ⟨l, w⟩ := entry'
      simp only [names_cons, List.cons.injEq] at order
      obtain ⟨rfl, order⟩ := order
      rw [names_cons, List.nodup_cons] at distinct
      have head := same k
      simp only [get?, if_true, Option.some.injEq] at head
      subst head
      have tail : rest = rest' := by
        refine ih distinct.2 order fun key => ?_
        by_cases here : k = key
        · subst here
          rw [get?_eq_none_iff.mpr distinct.1, get?_eq_none_iff.mpr (order ▸ distinct.1)]
        · have found := same key
          simpa only [get?, here, if_false] using found
      rw [tail]

/-! ## Putting -/

theorem mem_put {entries : Entries α} {key : String} {v : α} {entry : String × α}
    (inside : entry ∈ put entries key v) : entry ∈ entries ∨ entry = (key, v) := by
  induction entries with
  | nil => exact .inr (List.mem_singleton.mp inside)
  | cons first rest ih =>
    obtain ⟨k, w⟩ := first
    by_cases here : k = key
    · simp only [put, here, if_true, List.mem_cons] at inside
      exact inside.elim .inr fun later => .inl (List.mem_cons_of_mem _ later)
    · simp only [put, here, if_false, List.mem_cons] at inside
      rcases inside with same | later
      · exact .inl (same ▸ List.mem_cons_self)
      · exact (ih later).imp_left (List.mem_cons_of_mem _)

theorem put_of_not_mem {entries : Entries α} {key : String} (absent : key ∉ names entries) (v : α) :
    put entries key v = entries ++ [(key, v)] := by
  induction entries with
  | nil => rfl
  | cons entry rest ih =>
    obtain ⟨k, w⟩ := entry
    simp only [names_cons, List.mem_cons, not_or] at absent
    simp only [put, Ne.symm absent.1, if_false, ih absent.2, List.cons_append]

theorem put_put (entries : Entries α) (key : String) (v w : α) : (entries.put key v).put key w = entries.put key w := by
  induction entries with
  | nil => simp [put]
  | cons entry rest ih =>
    obtain ⟨k, u⟩ := entry
    by_cases here : k = key
    · simp [put, here]
    · simp [put, here, ih]

theorem put_of_get? {entries : Entries α} {key : String} {v : α} (found : entries.get? key = some v) :
    entries.put key v = entries := by
  induction entries with
  | nil => cases found
  | cons entry rest ih =>
    obtain ⟨k, u⟩ := entry
    by_cases here : k = key
    · simp only [get?, here, if_true, Option.some.injEq] at found
      simp [put, here, found]
    · simp only [get?, here, if_false] at found
      simp [put, here, ih found]

theorem nodup_put {entries : Entries α} (distinct : (names entries).Nodup) (key : String) (v : α) :
    (names (put entries key v)).Nodup := by
  rw [names_put]
  split_ifs with inside
  · exact distinct
  · exact List.Nodup.append distinct (List.nodup_singleton key) (by simpa using inside)

/-! ## Taking out -/

theorem names_erase (entries : Entries α) (key : String) : names (erase entries key) = (names entries).erase key := by
  induction entries with
  | nil => rfl
  | cons entry rest ih =>
    obtain ⟨k, v⟩ := entry
    by_cases here : k = key
    · simp [here]
    · simp [here, ih]

theorem nodup_erase {entries : Entries α} (distinct : (names entries).Nodup) (key : String) :
    (names (erase entries key)).Nodup := by
  rw [names_erase]
  exact distinct.erase key

theorem mem_of_mem_erase {entries : Entries α} {key : String} {entry : String × α}
    (inside : entry ∈ erase entries key) : entry ∈ entries := by
  induction entries with
  | nil => cases inside
  | cons first rest ih =>
    obtain ⟨k, w⟩ := first
    by_cases here : k = key
    · simp only [erase, here, if_true] at inside
      exact List.mem_cons_of_mem _ inside
    · simp only [erase, here, if_false, List.mem_cons] at inside
      rcases inside with same | later
      · exact same ▸ List.mem_cons_self
      · exact List.mem_cons_of_mem _ (ih later)

/-- Taking a name out touches no other. -/
theorem get?_erase_of_ne (entries : Entries α) {key other : String} (apart : key ≠ other) :
    get? (erase entries key) other = get? entries other := by
  induction entries with
  | nil => rfl
  | cons entry rest ih =>
    obtain ⟨k, v⟩ := entry
    by_cases here : k = key
    · simp [here, apart]
    · by_cases there : k = other
      · simp [there, Ne.symm apart]
      · simp [here, there, ih]

/-- A name that was taken out is gone, and nothing else is touched. -/
theorem get?_erase {entries : Entries α} (distinct : (names entries).Nodup) (key other : String) :
    get? (erase entries key) other = if key = other then none else get? entries other := by
  split_ifs with same
  · subst same
    rw [get?_eq_none_iff, names_erase]
    exact distinct.not_mem_erase
  · exact get?_erase_of_ne entries same

/-- Leaving out what does not pass a test touches nothing else. -/
theorem get?_filter {entries : Entries α} (distinct : (names entries).Nodup) (keep : α → Bool) (key : String) :
    get? (entries.filter fun entry => keep entry.2) key = (get? entries key).filter keep := by
  induction entries with
  | nil => rfl
  | cons entry rest ih =>
    obtain ⟨k, v⟩ := entry
    rw [names_cons, List.nodup_cons] at distinct
    by_cases kept : keep v = true
    · rw [List.filter_cons_of_pos (by exact kept)]
      by_cases here : k = key
      · simp [here, kept, Option.filter_some]
      · simp [here, ih distinct.2]
    · rw [List.filter_cons_of_neg (by exact kept), ih distinct.2]
      by_cases here : k = key
      · subst here
        simp [get?_eq_none_iff.mpr distinct.1, kept, Option.filter_some]
      · simp [here]

/-! ## Merging -/

theorem merge_cons (base : Entries α) (k : String) (v : α) (rest : Entries α) :
    merge base ((k, v) :: rest) = merge (put base k v) rest := rfl

/-- What the changes have a name for is theirs, the rest is from the base. -/
theorem get?_merge (base : Entries α) {changes : Entries α} (distinct : (names changes).Nodup) (key : String) :
    get? (merge base changes) key = (get? changes key).or (get? base key) := by
  induction changes generalizing base with
  | nil => simp [merge]
  | cons entry rest ih =>
    obtain ⟨k, v⟩ := entry
    rw [names_cons, List.nodup_cons] at distinct
    rw [merge_cons, ih _ distinct.2, get?_put]
    by_cases here : k = key
    · subst here
      simp [get?_eq_none_iff.mpr distinct.1]
    · simp [here]

/-- The base keeps its names in place; the new ones of the changes come after them. -/
theorem names_merge (base : Entries α) {changes : Entries α} (distinct : (names changes).Nodup) :
    names (merge base changes) = names base ++ (names changes).filter (· ∉ names base) := by
  induction changes generalizing base with
  | nil => simp [merge]
  | cons entry rest ih =>
    obtain ⟨k, v⟩ := entry
    rw [names_cons, List.nodup_cons] at distinct
    rw [merge_cons, ih _ distinct.2, names_put, names_cons]
    by_cases inside : k ∈ names base
    · simp [inside]
    · have others : (names rest).filter (· ∉ names base ++ [k]) = (names rest).filter (· ∉ names base) := by
        refine List.filter_congr fun name member => ?_
        have other : name ≠ k := fun same => distinct.1 (same ▸ member)
        simp [other]
      rw [if_neg inside, others, List.filter_cons_of_pos (by simpa using inside), List.append_assoc]
      rfl

/-- What the base has a name for stays named. -/
theorem mem_names_merge {base : Entries α} {key : String} (inside : key ∈ names base) (changes : Entries α) :
    key ∈ names (merge base changes) := by
  induction changes generalizing base with
  | nil => exact inside
  | cons entry rest ih =>
    refine ih ?_
    rw [names_put]
    split_ifs
    · exact inside
    · exact List.mem_append_left _ inside

theorem nodup_merge {base : Entries α} (distinct : (names base).Nodup) (changes : Entries α) :
    (names (merge base changes)).Nodup := by
  induction changes generalizing base with
  | nil => exact distinct
  | cons entry rest ih => exact ih (nodup_put distinct entry.1 entry.2)

/-- Merging one after the other comes to one merge, in the same order. -/
theorem merge_merge {base first second : Entries α} (distinct : (names base).Nodup) (one : (names first).Nodup)
    (two : (names second).Nodup) : merge (merge base first) second = merge base (merge first second) := by
  have both := nodup_merge one second
  refine ext_get? (nodup_merge (nodup_merge distinct first) second) ?_ fun key => ?_
  · rw [names_merge _ two, names_merge _ one, names_merge _ both, names_merge _ two, List.filter_append,
      List.append_assoc, List.filter_filter]
    congr 2
    refine List.filter_congr fun name _ => ?_
    by_cases inside : name ∈ names base
    · simp [inside]
    · simp [inside]
  · rw [get?_merge _ two, get?_merge _ one, get?_merge _ both, get?_merge _ two, Option.or_assoc]

/-- Under each name stands what the last of many changes has for it, or what was there first. -/
theorem get?_foldl_merge (base : Entries α) {changes : List (Entries α)}
    (distinct : ∀ one ∈ changes, (names one).Nodup) (key : String) :
    get? (changes.foldl merge base) key = (changes.reverse.findSome? (get? · key)).or (get? base key) := by
  induction changes generalizing base with
  | nil => simp
  | cons first rest ih =>
    obtain ⟨one, others⟩ := List.forall_mem_cons.mp distinct
    rw [List.foldl_cons, ih _ others, get?_merge _ one, List.reverse_cons, List.findSome?_append, Option.or_assoc]
    simp

theorem mem_merge {base changes : Entries α} {entry : String × α} (inside : entry ∈ merge base changes) :
    entry ∈ base ∨ entry ∈ changes := by
  induction changes generalizing base with
  | nil => exact .inl inside
  | cons first rest ih =>
    rcases ih inside with before | later
    · rcases mem_put before with old | same
      · exact .inl old
      · exact .inr (same ▸ List.mem_cons_self)
    · exact .inr (List.mem_cons_of_mem _ later)

/-! ## Changing what stands under the names -/

/-- The entries with a function applied to all that stands under the names. -/
def mapValues (f : α → β) (entries : Entries α) : Entries β := entries.map fun (k, v) => (k, f v)

theorem get?_mapValues (f : α → β) (entries : Entries α) (key : String) :
    get? (mapValues f entries) key = (get? entries key).map f := by
  induction entries with
  | nil => rfl
  | cons entry rest ih =>
    obtain ⟨k, v⟩ := entry
    by_cases here : k = key
    · simp [mapValues, here]
    · simpa [mapValues, here] using ih

theorem put_mapValues (f : α → β) (entries : Entries α) (key : String) (v : α) :
    put (mapValues f entries) key (f v) = mapValues f (put entries key v) := by
  induction entries with
  | nil => rfl
  | cons entry rest ih =>
    obtain ⟨k, w⟩ := entry
    by_cases here : k = key
    · simp [mapValues, here]
    · simpa [mapValues, here] using ih

theorem merge_mapValues (f : α → β) (base changes : Entries α) :
    merge (mapValues f base) (mapValues f changes) = mapValues f (merge base changes) := by
  induction changes generalizing base with
  | nil => rfl
  | cons entry rest ih =>
    obtain ⟨k, v⟩ := entry
    rw [merge_cons, ← ih, ← put_mapValues]
    rfl

/-- The entries with a function applied to what stands under one name. -/
def modify (f : α → α) (key : String) (entries : Entries α) : Entries α :=
  entries.map fun (k, v) => (k, if k = key then f v else v)

theorem get?_modify (f : α → α) (key : String) (entries : Entries α) (other : String) :
    get? (modify f key entries) other = (get? entries other).map fun v => if other = key then f v else v := by
  induction entries with
  | nil => rfl
  | cons entry rest ih =>
    obtain ⟨k, v⟩ := entry
    by_cases here : k = other
    · simp [modify, here]
    · simpa [modify, here] using ih

end HomeTiles.Entries

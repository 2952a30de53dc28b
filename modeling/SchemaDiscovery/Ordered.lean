/-!
Lists whose items are told apart by a key, kept in the order in which the keys first appeared.
Main statements: putting an item leaves the other items as they are and repeats no key.
-/

namespace SchemaDiscovery.Ordered

variable {α κ : Type} [DecidableEq κ]

/-- Puts the item in place of the one with its key, else at the end. -/
def put (key : α → κ) (item : α) : List α → List α
  | [] => [item]
  | other :: items => if key other = key item then item :: items else other :: put key item items

/-- The items in order of their keys' first appearance, each as it appeared last. -/
def ofList (key : α → κ) (items : List α) : List α :=
  items.foldl (fun kept item => put key item kept) []

theorem keys_put (key : α → κ) (item : α) (items : List α) :
    (put key item items).map key =
      if key item ∈ items.map key then items.map key else items.map key ++ [key item] := by
  induction items with
  | nil => simp [put]
  | cons other items ih =>
    by_cases same : key other = key item
    · simp [put, same]
    · rw [put, if_neg same, List.map_cons, ih]
      have h : ¬ key item = key other := fun h => same h.symm
      by_cases present : key item ∈ items.map key <;> simp [present, h]

theorem nodup_keys_put (key : α → κ) (item : α) (items : List α)
    (distinct : (items.map key).Nodup) : ((put key item items).map key).Nodup := by
  rw [keys_put]
  split
  · exact distinct
  · next absent =>
    refine List.nodup_append.2 ⟨distinct, by simp, ?_⟩
    intro a ha b hb same
    simp only [List.mem_singleton] at hb
    exact absent (hb ▸ same ▸ ha)

theorem mem_put {key : α → κ} {item other : α} {items : List α} (h : other ∈ put key item items) :
    other = item ∨ other ∈ items := by
  induction items with
  | nil => exact .inl (by simpa [put] using h)
  | cons head items ih =>
    rw [put] at h
    split at h
    · rcases List.mem_cons.1 h with rfl | h
      · exact .inl rfl
      · exact .inr (List.mem_cons_of_mem _ h)
    · rcases List.mem_cons.1 h with rfl | h
      · exact .inr List.mem_cons_self
      · exact (ih h).imp_right (List.mem_cons_of_mem _)

theorem mem_keys_put {key : α → κ} {item : α} {items : List α} {k : κ} :
    k ∈ (put key item items).map key ↔ k = key item ∨ k ∈ items.map key := by
  rw [keys_put]
  split
  · next present =>
    constructor
    · exact .inr
    · rintro (rfl | member)
      · exact present
      · exact member
  · simp [or_comm]

theorem mem_ofList {key : α → κ} {item : α} {items : List α} (h : item ∈ ofList key items) :
    item ∈ items := by
  have kept : ∀ start : List α, item ∈ items.foldl (fun kept other => put key other kept) start →
      item ∈ start ∨ item ∈ items := by
    clear h
    induction items with
    | nil => exact fun start member => .inl member
    | cons head items ih =>
      intro start member
      rcases ih _ member with earlier | later
      · rcases mem_put earlier with rfl | earlier
        · exact .inr List.mem_cons_self
        · exact .inl earlier
      · exact .inr (List.mem_cons_of_mem _ later)
  exact (kept [] h).resolve_left (by simp)

theorem mem_keys_ofList {key : α → κ} {items : List α} {k : κ} :
    k ∈ (ofList key items).map key ↔ k ∈ items.map key := by
  have kept : ∀ start : List α,
      k ∈ (items.foldl (fun kept other => put key other kept) start).map key ↔
        k ∈ start.map key ∨ k ∈ items.map key := by
    induction items with
    | nil => simp
    | cons head items ih =>
      intro start
      rw [List.foldl_cons, ih, mem_keys_put, List.map_cons, List.mem_cons, or_assoc]
      exact or_left_comm
  rw [ofList, kept]
  simp

theorem ofList_concat (key : α → κ) (items : List α) (item : α) :
    ofList key (items ++ [item]) = put key item (ofList key items) := by
  simp [ofList, List.foldl_append]

theorem keys_ofList (key : α → κ) (items : List α) :
    (ofList key items).map key = (items.map key).eraseDups := by
  have kept : ∀ rest : List α,
      (ofList key rest.reverse).map key = (rest.reverse.map key).eraseDups := by
    intro rest
    induction rest with
    | nil => rfl
    | cons item rest ih =>
      rw [List.reverse_cons, ofList_concat, keys_put, ih, List.map_append, List.map_singleton,
        List.eraseDups_append, List.cons_removeAll]
      by_cases present : key item ∈ rest.reverse.map key
      · rw [if_pos (List.mem_eraseDups.2 present), if_neg (by simpa using present)]
        exact (List.append_nil _).symm
      · rw [if_neg (fun member => present (List.mem_eraseDups.1 member)),
          if_pos (by simpa using present)]
        rfl
  simpa using kept items.reverse

theorem nodup_keys_ofList (key : α → κ) (items : List α) :
    ((ofList key items).map key).Nodup := by
  have kept : ∀ start : List α, (start.map key).Nodup →
      ((items.foldl (fun kept other => put key other kept) start).map key).Nodup := by
    induction items with
    | nil => exact fun start distinct => distinct
    | cons head items ih => exact fun start distinct => ih _ (nodup_keys_put key head start distinct)
  exact kept [] .nil

theorem find_put (key : α → κ) (item : α) (items : List α) (k : κ) :
    (put key item items).find? (key · = k) =
      if key item = k then some item else items.find? (key · = k) := by
  induction items with
  | nil => by_cases h : key item = k <;> simp [put, h]
  | cons other items ih =>
    by_cases same : key other = key item
    · by_cases h : key item = k <;> simp [put, same, h]
    · rw [put, if_neg same, List.find?_cons, ih]
      by_cases h : key item = k
      · have : ¬ key other = k := fun e => same (e.trans h.symm)
        simp [h, this]
      · simp [h, List.find?_cons]

theorem put_of_find {key : α → κ} {item : α} {items : List α}
    (found : items.find? (key · = key item) = some item) : put key item items = items := by
  induction items with
  | nil => cases found
  | cons other items ih =>
    rw [put]
    by_cases same : key other = key item
    · rw [List.find?_cons_of_pos (by simpa using same), Option.some_inj] at found
      rw [if_pos same, found]
    · rw [List.find?_cons_of_neg (by simpa using same)] at found
      rw [if_neg same, ih found]

theorem find_ofList (key : α → κ) (items : List α) (k : κ) :
    (ofList key items).find? (key · = k) = items.reverse.find? (key · = k) := by
  have kept : ∀ rest : List α,
      (ofList key rest.reverse).find? (key · = k) = rest.find? (key · = k) := by
    intro rest
    induction rest with
    | nil => rfl
    | cons item rest ih =>
      rw [List.reverse_cons, ofList_concat, find_put, ih, List.find?_cons]
      by_cases h : key item = k <;> simp [h]
  simpa using kept items.reverse

theorem find_eq_some_of_nodup {key : α → κ} {item : α} {items : List α}
    (distinct : (items.map key).Nodup) (member : item ∈ items) :
    items.find? (key · = key item) = some item := by
  induction items with
  | nil => cases member
  | cons head items ih =>
    have fresh : key head ∉ items.map key := (List.nodup_cons.1 distinct).1
    rcases List.mem_cons.1 member with rfl | later
    · simp
    · have different : ¬ key head = key item :=
        fun same => fresh (same ▸ List.mem_map_of_mem later)
      rw [List.find?_cons_of_neg (by simpa using different)]
      exact ih (List.nodup_cons.1 distinct).2 later

theorem mem_ofList_iff {key : α → κ} {item : α} {items : List α} :
    item ∈ ofList key items ↔ items.reverse.find? (key · = key item) = some item := by
  rw [← find_ofList]
  constructor
  · exact find_eq_some_of_nodup (nodup_keys_ofList key items)
  · exact List.mem_of_find?_eq_some

theorem map_put {β : Type} {key : α → κ} {key' : β → κ} {change : α → β}
    (same : ∀ item, key' (change item) = key item) (item : α) (items : List α) :
    (put key item items).map change = put key' (change item) (items.map change) := by
  induction items with
  | nil => rfl
  | cons other items ih =>
    rw [put, List.map_cons, put, same, same]
    split
    · rfl
    · rw [List.map_cons, ih]

theorem map_ofList {β : Type} {key : α → κ} {key' : β → κ} {change : α → β}
    (same : ∀ item, key' (change item) = key item) (items : List α) :
    (ofList key items).map change = ofList key' (items.map change) := by
  have kept : ∀ rest : List α,
      (ofList key rest.reverse).map change = ofList key' (rest.reverse.map change) := by
    intro rest
    induction rest with
    | nil => rfl
    | cons item rest ih =>
      rw [List.reverse_cons, ofList_concat, map_put same, ih, List.map_append, List.map_singleton,
        ofList_concat]
  simpa using kept items.reverse

theorem mem_ofList_append {key : α → κ} {item : α} {earlier later : List α}
    (present : key item ∈ later.map key) :
    item ∈ ofList key (earlier ++ later) ↔ item ∈ ofList key later := by
  obtain ⟨other, member, same⟩ := List.mem_map.1 present
  have found : (later.reverse.find? (key · = key item)).isSome := by
    rw [List.find?_isSome]
    exact ⟨other, List.mem_reverse.2 member, by simpa using same⟩
  rw [mem_ofList_iff, mem_ofList_iff, List.reverse_append, List.find?_append,
    Option.or_of_isSome found]

end SchemaDiscovery.Ordered

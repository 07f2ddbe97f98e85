/-!
# Collections in order of first arrival

A list in which no two elements share a key. A new element goes to the end, and one whose key is
there already changes nothing, so the first arrival wins and the order is the order of arrival.
-/

namespace Requisite

variable {α κ : Type} [DecidableEq κ]

/-- The list with `x` at its end, unless an element of the list has the key of `x`. -/
def addNew (key : α → κ) (xs : List α) (x : α) : List α :=
  if xs.any fun y => decide (key y = key x) then xs else xs ++ [x]

/-- The list after the elements of `ys` arrive one by one. -/
def addAll (key : α → κ) (xs ys : List α) : List α :=
  ys.foldl (addNew key) xs

/-- The elements of `ys` that are the first of their key, in order. -/
def firsts (key : α → κ) (ys : List α) : List α :=
  addAll key [] ys

/-- Where the key is known, nothing changes. -/
theorem addNew_of_mem {key : α → κ} {xs : List α} {x : α} (h : key x ∈ xs.map key) :
    addNew key xs x = xs := by
  obtain ⟨y, hy, hkey⟩ := List.mem_map.1 h
  exact if_pos (List.any_eq_true.2 ⟨y, hy, decide_eq_true hkey⟩)

/-- An element with a new key goes to the end. -/
theorem addNew_of_not_mem {key : α → κ} {xs : List α} {x : α} (h : key x ∉ xs.map key) :
    addNew key xs x = xs ++ [x] := by
  refine if_neg fun hany => h ?_
  obtain ⟨y, hy, hkey⟩ := List.any_eq_true.1 hany
  exact List.mem_map.2 ⟨y, hy, of_decide_eq_true hkey⟩

/-- An element that is its own key and is there changes nothing. -/
theorem addNew_id_of_mem [DecidableEq α] {xs : List α} {x : α} (h : x ∈ xs) :
    addNew id xs x = xs :=
  addNew_of_mem (by rwa [List.map_id])

/-- An element that is its own key and is not there goes to the end. -/
theorem addNew_id_of_not_mem [DecidableEq α] {xs : List α} {x : α} (h : x ∉ xs) :
    addNew id xs x = xs ++ [x] :=
  addNew_of_not_mem (by rwa [List.map_id])

/-- The keys after an arrival are the keys before it and the new one. -/
theorem mem_map_addNew {key : α → κ} {xs : List α} {x : α} {k : κ} :
    k ∈ (addNew key xs x).map key ↔ k ∈ xs.map key ∨ k = key x := by
  by_cases h : key x ∈ xs.map key
  · rw [addNew_of_mem h]
    exact ⟨Or.inl, fun hk => hk.elim id fun hk => hk ▸ h⟩
  · rw [addNew_of_not_mem h]
    simp

/-- An arrival keeps the keys apart. -/
theorem nodup_map_addNew {key : α → κ} {xs : List α} {x : α} (h : (xs.map key).Nodup) :
    ((addNew key xs x).map key).Nodup := by
  by_cases hx : key x ∈ xs.map key
  · rwa [addNew_of_mem hx]
  · rw [addNew_of_not_mem hx, List.map_append, List.nodup_append]
    refine ⟨h, by simp, fun a ha b hb hab => hx ?_⟩
    have : b = key x := by simpa using hb
    rwa [← this, ← hab]

/-- Where no two elements share a key, each is found by its key. -/
theorem find?_of_mem {key : α → κ} {xs : List α} {x : α} (h : (xs.map key).Nodup) (hx : x ∈ xs) :
    xs.find? (fun y => key y = key x) = some x := by
  induction xs with
  | nil => simp at hx
  | cons y ys ih =>
    obtain ⟨hy, hys⟩ := List.nodup_cons.1 h
    rcases List.mem_cons.1 hx with rfl | hx
    · exact List.find?_cons_of_pos (decide_eq_true rfl)
    · have hne : key y ≠ key x := fun heq => hy (heq ▸ List.mem_map_of_mem hx)
      rw [List.find?_cons_of_neg (by simpa using hne)]
      exact ih hys hx

/-- The keys after several arrivals are those before and those that arrived. -/
theorem mem_map_addAll {key : α → κ} {xs ys : List α} {k : κ} :
    k ∈ (addAll key xs ys).map key ↔ k ∈ xs.map key ∨ k ∈ ys.map key := by
  induction ys generalizing xs with
  | nil => simp [addAll]
  | cons y ys ih =>
    rw [List.map_cons, List.mem_cons, ← or_assoc, ← mem_map_addNew]
    exact ih

/-- Of arrivals that are their own keys, all are there. -/
theorem mem_addAll_id [DecidableEq α] {xs ys : List α} {x : α} :
    x ∈ addAll id xs ys ↔ x ∈ xs ∨ x ∈ ys := by
  have h := @mem_map_addAll α α _ id xs ys x
  rwa [List.map_id, List.map_id, List.map_id] at h

/-- Several arrivals keep the keys apart. -/
theorem nodup_map_addAll {key : α → κ} {xs ys : List α} (h : (xs.map key).Nodup) :
    ((addAll key xs ys).map key).Nodup := by
  induction ys generalizing xs with
  | nil => exact h
  | cons y ys ih => exact ih (nodup_map_addNew h)

/-- Arrivals that are their own keys stay apart. -/
theorem nodup_addAll_id [DecidableEq α] {xs ys : List α} (h : xs.Nodup) :
    (addAll id xs ys).Nodup := by
  have hkeys := @nodup_map_addAll α α _ id xs ys
  rw [List.map_id, List.map_id] at hkeys
  exact hkeys h

/-- Arrivals that follow others may arrive after them. -/
theorem addAll_append (key : α → κ) (xs ys zs : List α) :
    addAll key xs (ys ++ zs) = addAll key (addAll key xs ys) zs := by
  rw [addAll, addAll, addAll, List.foldl_append]

/-- Where all keys are known, nothing changes. -/
theorem addAll_of_forall_mem {key : α → κ} {xs ys : List α} (h : ∀ y ∈ ys, key y ∈ xs.map key) :
    addAll key xs ys = xs := by
  induction ys with
  | nil => rfl
  | cons y ys ih =>
    obtain ⟨hy, hys⟩ := List.forall_mem_cons.1 h
    calc addAll key xs (y :: ys)
        = addAll key (addNew key xs y) ys := rfl
      _ = addAll key xs ys := by rw [addNew_of_mem hy]
      _ = xs := ih hys

/-- An arrival behind known elements is the arrival by itself, unless its key is one of theirs. -/
theorem addNew_append_filter (key : α → κ) (xs zs : List α) (y : α) :
    addNew key (xs ++ zs.filter fun z => key z ∉ xs.map key) y =
      xs ++ (addNew key zs y).filter fun z => key z ∉ xs.map key := by
  by_cases hx : key y ∈ xs.map key
  · have hboth : key y ∈ (xs ++ zs.filter fun z => key z ∉ xs.map key).map key := by
      rw [List.map_append]
      exact List.mem_append_left _ hx
    rw [addNew_of_mem hboth]
    by_cases hz : key y ∈ zs.map key
    · rw [addNew_of_mem hz]
    · have hy : [y].filter (fun z => key z ∉ xs.map key) = [] :=
        List.filter_cons_of_neg fun h => of_decide_eq_true h hx
      rw [addNew_of_not_mem hz, List.filter_append, hy, List.append_nil]
  · by_cases hz : key y ∈ zs.map key
    · obtain ⟨z, hzs, hkey⟩ := List.mem_map.1 hz
      have hkept : z ∈ zs.filter fun z => key z ∉ xs.map key :=
        List.mem_filter.2 ⟨hzs, decide_eq_true (hkey ▸ hx)⟩
      have hboth : key y ∈ (xs ++ zs.filter fun z => key z ∉ xs.map key).map key := by
        rw [← hkey]
        exact List.mem_map_of_mem (List.mem_append_right _ hkept)
      rw [addNew_of_mem hz, addNew_of_mem hboth]
    · have hneither : key y ∉ (xs ++ zs.filter fun z => key z ∉ xs.map key).map key := by
        rw [List.map_append, List.mem_append, not_or]
        refine ⟨hx, fun hkept => hz ?_⟩
        obtain ⟨z, hzs, hkey⟩ := List.mem_map.1 hkept
        exact List.mem_map.2 ⟨z, (List.mem_filter.1 hzs).1, hkey⟩
      have hy : [y].filter (fun z => key z ∉ xs.map key) = [y] :=
        List.filter_cons_of_pos (decide_eq_true hx)
      rw [addNew_of_not_mem hz, addNew_of_not_mem hneither, List.filter_append, hy,
        List.append_assoc]

/-- Several arrivals add their first ones, those with known keys left out. -/
theorem addAll_eq_append (key : α → κ) (xs ys : List α) :
    addAll key xs ys = xs ++ (firsts key ys).filter fun y => key y ∉ xs.map key := by
  -- The arrivals so far stand behind the known elements, so the induction is for any of them.
  have hbehind (zs : List α) : addAll key (xs ++ zs.filter fun z => key z ∉ xs.map key) ys =
      xs ++ (addAll key zs ys).filter fun z => key z ∉ xs.map key := by
    induction ys generalizing zs with
    | nil => rfl
    | cons y ys ih =>
      calc addAll key (xs ++ zs.filter fun z => key z ∉ xs.map key) (y :: ys)
          = addAll key (addNew key (xs ++ zs.filter fun z => key z ∉ xs.map key) y) ys := rfl
        _ = addAll key (xs ++ (addNew key zs y).filter fun z => key z ∉ xs.map key) ys := by
          rw [addNew_append_filter]
        _ = xs ++ (addAll key zs (y :: ys)).filter fun z => key z ∉ xs.map key := ih _
  have hfresh := hbehind []
  rwa [List.filter_nil, List.append_nil] at hfresh

/-- What is there after several arrivals was there before or arrived. -/
theorem mem_of_mem_addAll {key : α → κ} {xs ys : List α} {x : α} (h : x ∈ addAll key xs ys) :
    x ∈ xs ∨ x ∈ ys := by
  induction ys generalizing xs with
  | nil => exact .inl h
  | cons y ys ih =>
    rcases ih h with h | h
    · by_cases hy : key y ∈ xs.map key
      · rw [addNew_of_mem hy] at h
        exact .inl h
      · rw [addNew_of_not_mem hy, List.mem_append, List.mem_singleton] at h
        rcases h with h | rfl
        · exact .inl h
        · exact .inr List.mem_cons_self
    · exact .inr (List.mem_cons_of_mem _ h)

/-- The first arrivals, when one more has come before them all, are that one and those that have
another key. -/
theorem firsts_cons (key : α → κ) (y : α) (ys : List α) :
    firsts key (y :: ys) = y :: (firsts key ys).filter fun z => key z ≠ key y := by
  calc firsts key (y :: ys)
      = addAll key [y] ys := rfl
    _ = [y] ++ (firsts key ys).filter fun z => key z ∉ [y].map key := addAll_eq_append key [y] ys
    _ = y :: (firsts key ys).filter fun z => key z ≠ key y := by simp

/-- The first of the arrivals in a class are those in it of the first arrivals. -/
theorem firsts_filter [DecidableEq α] (p : α → Bool) (ys : List α) :
    firsts id (ys.filter p) = (firsts id ys).filter p := by
  induction ys with
  | nil => rfl
  | cons y ys ih =>
    rw [firsts_cons, List.filter_cons, List.filter_cons, List.filter_filter]
    by_cases hy : p y
    · rw [if_pos hy, if_pos hy, firsts_cons, ih, List.filter_filter]
      exact congrArg (y :: ·) (List.filter_congr fun z _ => Bool.and_comm _ _)
    · rw [if_neg hy, if_neg hy, ih]
      refine List.filter_congr fun z _ => ?_
      -- An element of the class is not the one that is left out.
      by_cases hz : z = y
      · simp [hz, hy]
      · simp [hz]

/-- Arrivals that are their own keys are first where they have not been seen before. -/
theorem firsts_eq_eraseDups [DecidableEq α] [BEq α] [LawfulBEq α] :
    ∀ ys : List α, firsts id ys = ys.eraseDups
  | [] => rfl
  | y :: ys => by
    have hne : (fun z => decide (id z ≠ id y)) = fun z => !z == y := by
      funext z
      by_cases hz : z = y <;> simp [hz]
    rw [firsts_cons, hne, ← firsts_filter, firsts_eq_eraseDups (ys.filter _), List.eraseDups_cons]
termination_by ys => ys.length
decreasing_by exact Nat.lt_succ_of_le (List.length_filter_le _ _)

/-- Where no two arrivals share a key, all of them are first. -/
theorem firsts_of_nodup {key : α → κ} {ys : List α} (h : (ys.map key).Nodup) :
    firsts key ys = ys := by
  induction ys with
  | nil => rfl
  | cons y ys ih =>
    obtain ⟨hy, hys⟩ := List.nodup_cons.1 h
    have hall : ys.filter (fun z => key z ≠ key y) = ys := by
      refine List.filter_eq_self.2 fun z hz => decide_eq_true fun heq => hy ?_
      rw [← heq]
      exact List.mem_map_of_mem hz
    rw [firsts_cons, ih hys, hall]

/-- Arrivals that have arrived somewhere else before come in the same order as without that. -/
theorem addAll_addAll (key : α → κ) (xs ys zs : List α) :
    addAll key xs (addAll key ys zs) = addAll key (addAll key xs ys) zs := by
  -- One arrival of `zs` is either known among `ys`, or comes after them in both.
  have hone (ys : List α) (z : α) :
      addAll key xs (addNew key ys z) = addNew key (addAll key xs ys) z := by
    by_cases hz : key z ∈ ys.map key
    · rw [addNew_of_mem hz, addNew_of_mem (mem_map_addAll.2 (.inr hz))]
    · rw [addNew_of_not_mem hz, addAll_append]
      rfl
  induction zs generalizing ys with
  | nil => rfl
  | cons z zs ih =>
    calc addAll key xs (addAll key ys (z :: zs))
        = addAll key xs (addAll key (addNew key ys z) zs) := rfl
      _ = addAll key (addAll key xs (addNew key ys z)) zs := ih (addNew key ys z)
      _ = addAll key (addNew key (addAll key xs ys) z) zs := by rw [hone]
      _ = addAll key (addAll key xs ys) (z :: zs) := rfl

/-- One more arrival arrives after the first ones. -/
theorem firsts_append_singleton (key : α → κ) (ys : List α) (y : α) :
    firsts key (ys ++ [y]) = addNew key (firsts key ys) y :=
  addAll_append key [] ys [y]

/-- The keys of the first arrivals are those of all. -/
theorem mem_map_firsts {key : α → κ} {ys : List α} {k : κ} :
    k ∈ (firsts key ys).map key ↔ k ∈ ys.map key := by
  rw [firsts, mem_map_addAll]
  exact or_iff_right List.not_mem_nil

/-- Where the key tells the arrivals apart, all of them are among the first ones. -/
theorem mem_firsts {key : α → κ} {ys : List α} {x : α}
    (hkey : ∀ y ∈ ys, ∀ z ∈ ys, key y = key z → y = z) : x ∈ firsts key ys ↔ x ∈ ys := by
  constructor
  · intro h
    exact (mem_of_mem_addAll h).resolve_left List.not_mem_nil
  · intro h
    have hx : key x ∈ (firsts key ys).map key := mem_map_firsts.2 (List.mem_map_of_mem h)
    obtain ⟨y, hy, hyx⟩ := List.mem_map.1 hx
    have hy' : y ∈ ys := (mem_of_mem_addAll hy).resolve_left List.not_mem_nil
    rwa [← hkey y hy' x h hyx]

/-- Where the arrivals are their own keys, all of them are among the first ones. -/
theorem mem_firsts_id [DecidableEq α] {ys : List α} {x : α} : x ∈ firsts id ys ↔ x ∈ ys := by
  rw [firsts, mem_addAll_id]
  exact or_iff_right List.not_mem_nil

/-- The first arrival with a key is found among the first ones. -/
theorem find?_firsts (key : α → κ) (ys : List α) (k : κ) :
    (firsts key ys).find? (fun y => key y = k) = ys.find? (fun y => key y = k) := by
  induction ys with
  | nil => rfl
  | cons y ys ih =>
    rw [firsts_cons]
    by_cases hy : key y = k
    · rw [List.find?_cons_of_pos (by simpa using hy), List.find?_cons_of_pos (by simpa using hy)]
    · rw [List.find?_cons_of_neg (by simpa using hy), List.find?_cons_of_neg (by simpa using hy),
        ← ih, List.find?_filter]
      -- An element with the key `k` is not dropped for having that of `y`.
      refine congrArg (List.find? · _) (funext fun z => ?_)
      by_cases hz : key z = k
      · simp [hz, Ne.symm hy]
      · simp [hz]

/-- No two of the first arrivals share a key. -/
theorem nodup_map_firsts (key : α → κ) (ys : List α) : ((firsts key ys).map key).Nodup :=
  nodup_map_addAll (by simp)

/-- No arrival is among the first ones twice. -/
theorem nodup_firsts [DecidableEq α] (ys : List α) : (firsts id ys).Nodup := by
  have h := nodup_map_firsts id ys
  rwa [List.map_id] at h

end Requisite

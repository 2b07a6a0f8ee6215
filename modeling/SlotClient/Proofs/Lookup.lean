import Mathlib.Data.List.Nodup

/-!
# Entries found by their key

Nodes, pools and lent connections are kept in lists of entries with a key, in which the first entry
of a key is the one that counts. These facts say what is found after an entry has been replaced or
removed.
-/

namespace SlotClient

variable {Key Entry : Type} [DecidableEq Key]

theorem lookup_cons_ite (key other : Key) (entry : Entry) (entries : List (Key × Entry)) :
    ((key, entry) :: entries).lookup other =
      if other = key then some entry else entries.lookup other := by
  by_cases found : other = key
  · simp [found]
  · simp only [List.lookup_cons, beq_eq_false_iff_ne.mpr found, if_neg found]

theorem mem_of_lookup {key : Key} {entry : Entry} {entries : List (Key × Entry)}
    (found : entries.lookup key = some entry) : (key, entry) ∈ entries := by
  rcases List.lookup_eq_some_iff.mp found with ⟨front, back, rfl, _⟩
  exact List.mem_append_right front List.mem_cons_self

theorem lookup_replace (entries : List (Key × Entry)) (key other : Key) (entry : Entry) :
    (entries.map fun old => if old.1 = key then (key, entry) else old).lookup other =
      if other = key then (entries.lookup key).map fun _ => entry else entries.lookup other := by
  induction entries with
  | nil => simp
  | cons first rest ih =>
      rcases first with ⟨name, old⟩
      rw [List.map_cons, lookup_cons_ite name other, lookup_cons_ite name key]
      by_cases target : name = key
      · rw [if_pos target, lookup_cons_ite, ih, target, if_pos rfl]
        split <;> rfl
      · rw [if_neg target, lookup_cons_ite, ih, if_neg (Ne.symm target)]
        by_cases found : other = name
        · rw [if_pos found, if_neg (found ▸ target), if_pos found]
        · rw [if_neg found, if_neg found]

theorem replace_eq_self {key : Key} {entries : List (Key × Entry)}
    (missing : key ∉ entries.map Prod.fst) (entry : Entry) :
    (entries.map fun old => if old.1 = key then (key, entry) else old) = entries := by
  refine (List.map_congr_left ?_).trans (List.map_id entries)
  intro old member
  exact if_neg (ne_of_mem_of_not_mem (List.mem_map_of_mem member) missing)

omit [DecidableEq Key] in
theorem notMem_of_nodup_append_cons {key : Key} {entry : Entry} {front rest : List (Key × Entry)}
    (distinct : ((front ++ (key, entry) :: rest).map Prod.fst).Nodup) :
    key ∉ front.map Prod.fst ∧ key ∉ rest.map Prod.fst := by
  rw [List.map_append, List.map_cons, List.nodup_middle, List.nodup_cons, List.mem_append,
    not_or] at distinct
  exact distinct.1

/-- Where no key occurs twice, replacing the entry of a key changes no other one. -/
theorem replace_append_cons {key : Key} {old : Entry} {front rest : List (Key × Entry)}
    (distinct : ((front ++ (key, old) :: rest).map Prod.fst).Nodup) (entry : Entry) :
    ((front ++ (key, old) :: rest).map fun other =>
      if other.1 = key then (key, entry) else other) = front ++ (key, entry) :: rest := by
  rcases notMem_of_nodup_append_cons distinct with ⟨before, behind⟩
  rw [List.map_append, List.map_cons, if_pos rfl, replace_eq_self before, replace_eq_self behind]

theorem lookup_append_cons {key : Key} {entry : Entry} {front rest : List (Key × Entry)}
    (distinct : ((front ++ (key, entry) :: rest).map Prod.fst).Nodup) :
    (front ++ (key, entry) :: rest).lookup key = some entry := by
  have before := (notMem_of_nodup_append_cons distinct).1
  have missing : front.lookup key = none := by
    rw [List.lookup_eq_none_iff]
    intro other member
    have different := ne_of_mem_of_not_mem (List.mem_map_of_mem member) before
    simpa using different.symm
  rw [List.lookup_append, missing, Option.none_or, List.lookup_cons_self]

theorem lookup_eq_none_iff_notMem {key : Key} {entries : List (Key × Entry)} :
    entries.lookup key = none ↔ key ∉ entries.map Prod.fst := by
  induction entries with
  | nil => simp
  | cons first rest ih =>
      rw [lookup_cons_ite, List.map_cons, List.mem_cons, not_or, ← ih]
      split <;> simp_all

theorem lookup_eq_some_iff_mem {key : Key} {entry : Entry} {entries : List (Key × Entry)}
    (distinct : (entries.map Prod.fst).Nodup) :
    entries.lookup key = some entry ↔ (key, entry) ∈ entries := by
  refine ⟨mem_of_lookup, ?_⟩
  intro member
  rcases List.append_of_mem member with ⟨front, rest, rfl⟩
  exact lookup_append_cons distinct

theorem lookup_filter_ne {key other : Key} (different : other ≠ key)
    (entries : List (Key × Entry)) :
    (entries.filter (·.1 != key)).lookup other = entries.lookup other := by
  induction entries with
  | nil => rfl
  | cons first rest ih =>
      rcases first with ⟨name, entry⟩
      by_cases removed : name = key
      · rw [List.filter_cons_of_neg (by simp [removed]), ih, lookup_cons_ite,
          if_neg (removed ▸ different)]
      · rw [List.filter_cons_of_pos (by simp [removed]), lookup_cons_ite, lookup_cons_ite, ih]

theorem lookup_filter_self (key : Key) (entries : List (Key × Entry)) :
    (entries.filter (·.1 != key)).lookup key = none := by
  rw [List.lookup_eq_none_iff]
  intro entry member
  have different : entry.1 ≠ key := by simpa using (List.mem_filter.mp member).2
  simpa using different.symm

/-- Where no key occurs twice, removing a key removes just the entry that is found under it. -/
theorem perm_cons_filter_ne {key : Key} {entry : Entry} {entries : List (Key × Entry)}
    (distinct : (entries.map Prod.fst).Nodup) (found : entries.lookup key = some entry) :
    entries.Perm ((key, entry) :: entries.filter (·.1 != key)) := by
  induction entries with
  | nil => cases found
  | cons first rest ih =>
      rcases first with ⟨name, old⟩
      rw [List.map_cons, List.nodup_cons] at distinct
      rw [lookup_cons_ite] at found
      split at found
      · rename_i here
        subst here
        have others : rest.filter (·.1 != key) = rest := by
          rw [List.filter_eq_self]
          intro other member
          have := ne_of_mem_of_not_mem (List.mem_map_of_mem member) distinct.1
          simpa using this
        rw [Option.some.inj found, List.filter_cons_of_neg (by simp), others]
      · rename_i elsewhere
        rw [List.filter_cons_of_pos (by simpa using Ne.symm elsewhere)]
        exact ((ih distinct.2 found).cons _).trans (List.Perm.swap _ _ _)

end SlotClient

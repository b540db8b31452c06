import Mathlib

/-!
# Dictionaries that keep their order

A dictionary lists its keys in the order in which they were set for the first
time; a key that is set again keeps its place.  The order matters where a
dictionary is written out as text.
-/

namespace XianyuAdmin

@[ext]
structure Dict (Key Value : Type) where
  entries : List (Key × Value)
  nodup : (entries.map Prod.fst).Nodup

namespace Dict

variable {Key Value : Type} [DecidableEq Key]

def empty : Dict Key Value where
  entries := []
  nodup := List.nodup_nil

def get? (dict : Dict Key Value) (key : Key) : Option Value :=
  (dict.entries.find? fun entry => entry.1 = key).map Prod.snd

def setEntries (key : Key) (value : Value) (entries : List (Key × Value)) :
    List (Key × Value) :=
  if key ∈ entries.map Prod.fst then
    entries.map fun entry => if entry.1 = key then (key, value) else entry
  else entries ++ [(key, value)]

theorem keys_setEntries (key : Key) (value : Value) (entries : List (Key × Value)) :
    (setEntries key value entries).map Prod.fst =
      if key ∈ entries.map Prod.fst then entries.map Prod.fst
      else entries.map Prod.fst ++ [key] := by
  unfold setEntries
  split
  · rw [List.map_map]
    refine List.map_congr_left fun entry _ => ?_
    by_cases hkey : entry.1 = key
    · simp [hkey]
    · simp [hkey]
  · simp

def set (dict : Dict Key Value) (key : Key) (value : Value) : Dict Key Value where
  entries := setEntries key value dict.entries
  nodup := by
    rw [keys_setEntries]
    split
    · exact dict.nodup
    · rename_i hnew
      exact List.nodup_append.mpr ⟨dict.nodup, List.nodup_singleton key,
        fun left hleft right hright heq =>
          hnew (List.mem_singleton.mp hright ▸ heq ▸ hleft)⟩

variable {dict : Dict Key Value}

theorem get?_eq_some_iff {key : Key} {value : Value} :
    dict.get? key = some value ↔ (key, value) ∈ dict.entries := by
  constructor
  · intro hget
    obtain ⟨entry, hfound, rfl⟩ := Option.map_eq_some_iff.mp hget
    have hkey : entry.1 = key := by simpa using List.find?_some hfound
    exact hkey ▸ List.mem_of_find?_eq_some hfound
  · intro hmem
    obtain ⟨before, after, hsplit⟩ := List.append_of_mem hmem
    have hnodup := dict.nodup
    rw [hsplit, List.map_append, List.map_cons, List.nodup_middle] at hnodup
    have hbefore : before.find? (fun entry => entry.1 = key) = none := by
      refine List.find?_eq_none.mpr fun entry hentry heq => ?_
      refine (List.nodup_cons.mp hnodup).1 (List.mem_append_left _ ?_)
      exact List.mem_map.mpr ⟨entry, hentry, by simpa using heq⟩
    unfold get?
    rw [hsplit, List.find?_append, hbefore, Option.none_or, List.find?_cons_of_pos (by simp)]
    rfl

theorem mem_entries_set {key : Key} {value : Value} {entry : Key × Value} :
    entry ∈ (dict.set key value).entries ↔
      entry = (key, value) ∨ (entry.1 ≠ key ∧ entry ∈ dict.entries) := by
  unfold set setEntries
  dsimp only
  split
  · rename_i hold
    rw [List.mem_map]
    constructor
    · rintro ⟨stored, hstored, rfl⟩
      by_cases hkey : stored.1 = key
      · exact .inl (by rw [if_pos hkey])
      · rw [if_neg hkey]
        exact .inr ⟨hkey, hstored⟩
    · rintro (rfl | ⟨hkey, hmem⟩)
      · obtain ⟨stored, hstored, hname⟩ := List.mem_map.mp hold
        exact ⟨stored, hstored, if_pos hname⟩
      · exact ⟨entry, hmem, if_neg hkey⟩
  · rename_i hnew
    rw [List.mem_append, List.mem_singleton]
    constructor
    · rintro (hmem | heq)
      · exact .inr ⟨fun hkey => hnew (hkey ▸ List.mem_map_of_mem hmem), hmem⟩
      · exact .inl heq
    · rintro (heq | ⟨-, hmem⟩)
      · exact .inr heq
      · exact .inl hmem

theorem get?_set (dict : Dict Key Value) (key : Key) (value : Value) (other : Key) :
    (dict.set key value).get? other = if other = key then some value else dict.get? other := by
  refine Option.ext fun found => ?_
  rw [get?_eq_some_iff, mem_entries_set]
  by_cases hkey : other = key
  · simp [hkey, eq_comm]
  · simp [hkey, get?_eq_some_iff]

/-- `dict.update(entries)`. -/
def update (dict : Dict Key Value) (entries : List (Key × Value)) : Dict Key Value :=
  entries.foldl (fun dict entry => dict.set entry.1 entry.2) dict

def ofEntries (entries : List (Key × Value)) : Dict Key Value := empty.update entries

theorem update_nil (dict : Dict Key Value) : dict.update [] = dict := rfl

theorem update_cons (dict : Dict Key Value) (entry : Key × Value)
    (entries : List (Key × Value)) :
    dict.update (entry :: entries) = (dict.set entry.1 entry.2).update entries := rfl

/-- What holds of the old entries and of the new ones holds after an update. -/
theorem forall_mem_update {property : Key × Value → Prop} {entries : List (Key × Value)}
    (hdict : ∀ entry ∈ dict.entries, property entry)
    (hentries : ∀ entry ∈ entries, property entry) :
    ∀ entry ∈ (dict.update entries).entries, property entry := by
  induction entries generalizing dict with
  | nil => exact hdict
  | cons first rest ih =>
      rw [update_cons]
      refine ih (fun entry hentry => ?_) fun entry hentry =>
        hentries entry (List.mem_cons_of_mem _ hentry)
      rcases mem_entries_set.mp hentry with rfl | ⟨-, hold⟩
      · exact hentries first List.mem_cons_self
      · exact hdict entry hold

/-- An update overlays the old values with the new ones. -/
theorem get?_update (dict other : Dict Key Value) (key : Key) :
    (dict.update other.entries).get? key = (other.get? key).or (dict.get? key) := by
  obtain ⟨entries, hnodup⟩ := other
  induction entries generalizing dict with
  | nil => rfl
  | cons first rest ih =>
      have hnodup' : first.1 ∉ rest.map Prod.fst ∧ (rest.map Prod.fst).Nodup :=
        List.nodup_cons.mp hnodup
      have hrest := ih (dict.set first.1 first.2) hnodup'.2
      have hcons : ({ entries := first :: rest, nodup := hnodup } : Dict Key Value).get? key =
          if key = first.1 then some first.2
          else ({ entries := rest, nodup := hnodup'.2 } : Dict Key Value).get? key := by
        unfold get?
        by_cases hkey : first.1 = key
        · simp [hkey]
        · simp [hkey, Ne.symm hkey]
      rw [update_cons, hrest, get?_set, hcons]
      by_cases hkey : key = first.1
      · have hnone : ({ entries := rest, nodup := hnodup'.2 } : Dict Key Value).get? key =
            none := by
          refine Option.eq_none_iff_forall_ne_some.mpr fun value hvalue => ?_
          exact hnodup'.1 (hkey ▸ List.mem_map_of_mem (get?_eq_some_iff.mp hvalue))
        rw [if_pos hkey, if_pos hkey, hnone]
        rfl
      · rw [if_neg hkey, if_neg hkey]

theorem get?_update_eq_getLast? (dict : Dict Key Value) (entries : List (Key × Value))
    (key : Key) :
    (dict.update entries).get? key =
      ((entries.filter fun entry => entry.1 = key).getLast?.map Prod.snd).or (dict.get? key) := by
  induction entries generalizing dict with
  | nil => rfl
  | cons first rest ih =>
      rw [update_cons, ih, get?_set]
      by_cases hkey : first.1 = key
      · rw [if_pos hkey.symm, List.filter_cons_of_pos (by simpa using hkey),
          List.getLast?_cons]
        cases (rest.filter fun entry => entry.1 = key).getLast? <;> rfl
      · rw [if_neg (Ne.symm hkey), List.filter_cons_of_neg (by simpa using hkey)]

theorem get?_ofEntries (entries : List (Key × Value)) (key : Key) :
    (ofEntries entries).get? key =
      (entries.filter fun entry => entry.1 = key).getLast?.map Prod.snd := by
  rw [ofEntries, get?_update_eq_getLast?]
  exact Option.or_none

theorem update_of_fresh {entries : List (Key × Value)}
    (hnodup : ((dict.entries ++ entries).map Prod.fst).Nodup) :
    (dict.update entries).entries = dict.entries ++ entries := by
  induction entries generalizing dict with
  | nil => simp [update_nil]
  | cons first rest ih =>
      have hnew : first.1 ∉ dict.entries.map Prod.fst := by
        rw [List.map_append, List.map_cons, List.nodup_middle] at hnodup
        exact fun hmem => (List.nodup_cons.mp hnodup).1 (List.mem_append_left _ hmem)
      have hset : (dict.set first.1 first.2).entries = dict.entries ++ [first] := if_neg hnew
      have hassoc : (dict.set first.1 first.2).entries ++ rest =
          dict.entries ++ first :: rest := by
        rw [hset, List.append_assoc, List.singleton_append]
      rw [update_cons, ih (hassoc ▸ hnodup), hassoc]

/-- Setting the entries of a dictionary one after the other builds it again. -/
theorem ofEntries_entries (dict : Dict Key Value) : ofEntries dict.entries = dict :=
  Dict.ext (update_of_fresh (by simpa [empty] using dict.nodup))

end Dict

end XianyuAdmin

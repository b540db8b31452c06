import Mathlib

/-!
# Dictionaries that are passed by reference

A dictionary lives at an address of a heap and holds under each key another value: a leaf, or
the address of a dictionary.  Two dictionaries may hold the same one, and an assignment is seen
through both.  What is read along a path of keys tells two values apart up to their addresses.
-/

namespace XianyuAdmin.DictHeap

open Function (update)

variable {Leaf : Type*}

inductive Value (Leaf : Type*)
  | leaf (value : Leaf)
  | dict (address : ℕ)

/-- The dictionaries by address; no address from `next` on is in use. -/
structure Heap (Leaf : Type*) where
  dicts : ℕ → String → Option (Value Leaf)
  next : ℕ

/-- What a reader sees of a value: a leaf, or that it is a dictionary. -/
inductive Shape (Leaf : Type*)
  | leaf (value : Leaf)
  | dict

def Value.shape : Value Leaf → Shape Leaf
  | .leaf value => .leaf value
  | .dict _ => .dict

/-- The value is no dictionary from `bound` on. -/
def Value.Below (bound : ℕ) : Value Leaf → Prop
  | .leaf _ => True
  | .dict address => address < bound

namespace Heap

def child? (heap : Heap Leaf) (value : Value Leaf) (key : String) : Option (Value Leaf) :=
  match value with
  | .leaf _ => none
  | .dict address => heap.dicts address key

def walk (heap : Heap Leaf) (value : Value Leaf) (path : List String) : Option (Value Leaf) :=
  path.foldlM heap.child? value

def set (heap : Heap Leaf) (address : ℕ) (key : String) (value : Value Leaf) : Heap Leaf :=
  { heap with
    dicts := update heap.dicts address (update (heap.dicts address) key (some value)) }

/-- A new dictionary without keys. -/
def alloc (heap : Heap Leaf) : ℕ × Heap Leaf :=
  (heap.next,
    { dicts := update heap.dicts heap.next fun _ => none
      next := heap.next + 1 })

/-- The dictionaries below `bound` hold none from `bound` on. -/
def Closed (heap : Heap Leaf) (bound : ℕ) : Prop :=
  ∀ address < bound, ∀ key value, heap.dicts address key = some value → value.Below bound

def AgreeBelow (bound : ℕ) (left right : Heap Leaf) : Prop :=
  ∀ address < bound, left.dicts address = right.dicts address

variable {heap left right : Heap Leaf} {bound : ℕ} {value : Value Leaf}

@[simp]
theorem walk_nil (heap : Heap Leaf) (value : Value Leaf) : heap.walk value [] = some value := rfl

theorem walk_cons (heap : Heap Leaf) (value : Value Leaf) (key : String) (path : List String) :
    heap.walk value (key :: path) =
      (heap.child? value key).bind fun child => heap.walk child path := rfl

theorem walk_append (heap : Heap Leaf) (value : Value Leaf) (front back : List String) :
    heap.walk value (front ++ back) =
      (heap.walk value front).bind fun child => heap.walk child back := by
  rw [walk, List.foldlM_append]
  rfl

theorem walk_concat (heap : Heap Leaf) (value : Value Leaf) (path : List String) (key : String) :
    heap.walk value (path ++ [key]) =
      (heap.walk value path).bind fun child => heap.child? child key := by
  rw [walk_append]
  congr 1
  funext child
  rw [walk_cons]
  cases heap.child? child key <;> rfl

variable {path : List String} {key : String} {address : ℕ}

theorem exists_dict_of_walk_concat {found : Value Leaf}
    (hwalk : heap.walk value (path ++ [key]) = some found) :
    ∃ address, heap.walk value path = some (.dict address) ∧
      heap.dicts address key = some found := by
  rw [walk_concat] at hwalk
  obtain ⟨child, hchild, hfound⟩ := Option.bind_eq_some_iff.mp hwalk
  cases child with
  | leaf leaf => cases hfound
  | dict address => exact ⟨address, hchild, hfound⟩

theorem below_of_walk (hclosed : heap.Closed bound) (hvalue : value.Below bound)
    {found : Value Leaf} (hwalk : heap.walk value path = some found) :
    found.Below bound := by
  induction path generalizing value with
  | nil =>
      cases hwalk
      exact hvalue
  | cons key path ih =>
      rw [walk_cons] at hwalk
      obtain ⟨child, hchild, hrest⟩ := Option.bind_eq_some_iff.mp hwalk
      cases value with
      | leaf leaf => cases hchild
      | dict address => exact ih (hclosed address hvalue key child hchild) hrest

/-- A walk that stays below `bound` does not depend on what lies above. -/
theorem walk_eq_of_agreeBelow (hagree : AgreeBelow bound left right) (hclosed : right.Closed bound)
    (hvalue : value.Below bound) (path : List String) :
    left.walk value path = right.walk value path := by
  induction path generalizing value with
  | nil => rfl
  | cons key path ih =>
      cases value with
      | leaf leaf => rfl
      | dict address =>
          rw [walk_cons, walk_cons, child?, child?, hagree address hvalue]
          cases hchild : right.dicts address key with
          | none => rfl
          | some child => exact ih (hclosed address hvalue key child hchild)

theorem AgreeBelow.trans {middle : Heap Leaf} (hleft : AgreeBelow bound left middle)
    (hright : AgreeBelow bound middle right) : AgreeBelow bound left right :=
  fun address haddress => (hleft address haddress).trans (hright address haddress)

theorem AgreeBelow.mono {lower : ℕ} (hagree : AgreeBelow bound left right)
    (hle : lower ≤ bound) : AgreeBelow lower left right :=
  fun address haddress => hagree address (haddress.trans_le hle)

theorem below_mono {lower : ℕ} (hvalue : value.Below lower) (hle : lower ≤ bound) :
    value.Below bound := by
  cases value with
  | leaf leaf => trivial
  | dict address => exact lt_of_lt_of_le hvalue hle

theorem agreeBelow_alloc (heap : Heap Leaf) : AgreeBelow heap.next heap.alloc.2 heap :=
  fun _ haddress => Function.update_of_ne haddress.ne _ _

theorem dicts_alloc_self (heap : Heap Leaf) : heap.alloc.2.dicts heap.next = fun _ => none :=
  Function.update_self _ _ _

theorem closed_alloc (hclosed : heap.Closed heap.next) : heap.alloc.2.Closed (heap.next + 1) := by
  intro address haddress key value hheld
  rcases Nat.lt_succ_iff_lt_or_eq.mp haddress with hold | rfl
  · rw [agreeBelow_alloc heap address hold] at hheld
    exact below_mono (hclosed address hold key value hheld) (Nat.le_succ _)
  · rw [dicts_alloc_self] at hheld
    cases hheld

/-- An assignment of what is there already. -/
theorem set_eq_self (hheld : heap.dicts address key = some value) :
    heap.set address key value = heap := by
  rw [set, ← hheld, Function.update_eq_self, Function.update_eq_self]

theorem dicts_set_of_ne {other : ℕ} (hne : other ≠ address) (key : String) (value : Value Leaf) :
    (heap.set address key value).dicts other = heap.dicts other :=
  Function.update_of_ne hne _ _

theorem agreeBelow_set (haddress : bound ≤ address) (key : String) (value : Value Leaf) :
    AgreeBelow bound (heap.set address key value) heap :=
  fun _ hbelow => dicts_set_of_ne (hbelow.trans_le haddress).ne key value

theorem closed_set (hclosed : heap.Closed bound) (address : ℕ) (key : String)
    (hvalue : value.Below bound) : (heap.set address key value).Closed bound := by
  intro other hother name held hheld
  by_cases haddress : other = address
  · subst haddress
    by_cases hname : name = key
    · obtain rfl : value = held := by simpa [set, hname] using hheld
      exact hvalue
    · exact hclosed other hother name held (by simpa [set, hname] using hheld)
  · rw [dicts_set_of_ne haddress] at hheld
    exact hclosed other hother name held hheld

theorem child?_set_self (heap : Heap Leaf) (address : ℕ) (key : String) (value : Value Leaf) :
    (heap.set address key value).child? (.dict address) key = some value := by
  simp [child?, set]

theorem child?_set_of_ne (heap : Heap Leaf) (value : Value Leaf) {parent : Value Leaf}
    {name : String} (hne : parent = .dict address → name ≠ key) :
    (heap.set address key value).child? parent name = heap.child? parent name := by
  cases parent with
  | leaf leaf => rfl
  | dict other =>
      by_cases haddress : other = address
      · subst haddress
        simp [child?, set, hne rfl]
      · rw [child?, dicts_set_of_ne haddress, child?]

/-- An assignment to a dictionary that `root` reaches along one path only is seen along the
longer paths, and along no other. -/
theorem walk_set {root : Value Leaf} (hat : heap.walk root path = some (.dict address))
    (honly : ∀ other, heap.walk root other = some (.dict address) → other = path) (key : String)
    (other : List String) :
    (heap.set address key value).walk root other =
      if path ++ [key] <+: other then
        (heap.set address key value).walk value (other.drop (path.length + 1))
      else heap.walk root other := by
  induction other using List.reverseRecOn with
  | nil => simp
  | append_singleton other name ih =>
      rw [walk_concat, ih]
      by_cases hlonger : path ++ [key] <+: other
      · have hname : path ++ [key] <+: other ++ [name] := hlonger.trans (List.prefix_append _ _)
        have hlength : path.length + 1 ≤ other.length := by simpa using hlonger.length_le
        rw [if_pos hlonger, if_pos hname, List.drop_append_of_le_length hlength, walk_concat]
      · rw [if_neg hlonger]
        by_cases hsame : other = path ∧ name = key
        · obtain ⟨rfl, rfl⟩ := hsame
          rw [if_pos (List.prefix_refl _), hat, Option.bind_some, child?_set_self]
          simp
        · have hname : ¬ path ++ [key] <+: other ++ [name] := by
            intro hcut
            rcases List.prefix_concat_iff.mp hcut with heq | hshort
            · exact hsame ⟨(List.append_inj_left' heq rfl).symm, by simpa using
                (List.append_inj_right' heq rfl).symm⟩
            · exact hlonger hshort
          rw [if_neg hname, walk_concat]
          cases hparent : heap.walk root other with
          | none => rfl
          | some parent =>
              rw [Option.bind_some, Option.bind_some, child?_set_of_ne]
              rintro rfl rfl
              exact hsame ⟨honly other hparent, rfl⟩

end Heap

end XianyuAdmin.DictHeap

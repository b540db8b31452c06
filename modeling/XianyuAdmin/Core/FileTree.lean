import Mathlib

/-!
# Directory trees

A directory and all that is below it, as what stands at each relative path.  Directories are
made from the top down, and a file is written into a directory that is there.
-/

namespace XianyuAdmin.FileTree

/-- The names on the way from the root. -/
abbrev Path := List String

inductive Entry
  | directory
  | file (content : List UInt8)
  deriving DecidableEq

abbrev Tree := Path → Option Entry

/-- What the operating system answers instead. -/
inductive TreeError
  | fileExists
  | notADirectory
  | isADirectory
  deriving DecidableEq, Repr

/-- A root with nothing below it. -/
def empty : Tree := fun path => if path = [] then some .directory else none

/-- The directories on the way down from `base` are made, unless they are there. -/
def makeDirectories (base : Path) : Path → Tree → Except TreeError Tree
  | [], tree => .ok tree
  | name :: rest, tree =>
      match tree (base ++ [name]) with
      | some .directory => makeDirectories (base ++ [name]) rest tree
      | some (.file _) => .error .fileExists
      | none =>
          makeDirectories (base ++ [name]) rest
            (Function.update tree (base ++ [name]) (some .directory))

def writeFile (path : Path) (content : List UInt8) (tree : Tree) : Except TreeError Tree :=
  match tree path.dropLast, tree path with
  | some .directory, some .directory => .error .isADirectory
  | some .directory, _ => .ok (Function.update tree path (some (.file content)))
  | _, _ => .error .notADirectory

def Holds (tree : Tree) (path : Path) (content : List UInt8) : Prop :=
  tree path = some (.file content)

section Rules

variable {tree next : Tree} {base path other : Path} {content : List UInt8}

/-- No file is made or lost with the directories. -/
theorem holds_makeDirectories (hmade : makeDirectories base path tree = .ok next) :
    Holds next other content ↔ Holds tree other content := by
  induction path generalizing base tree with
  | nil =>
      cases hmade
      rfl
  | cons name rest ih =>
      rw [makeDirectories] at hmade
      split at hmade
      · exact ih hmade
      · cases hmade
      · rename_i hnone
        rw [ih hmade]
        unfold Holds
        by_cases hother : other = base ++ [name]
        · subst hother
          simp [hnone]
        · rw [Function.update_of_ne hother]

/-- What is there stays there. -/
theorem makeDirectories_keeps (hmade : makeDirectories base path tree = .ok next) {entry : Entry}
    (hentry : tree other = some entry) : next other = some entry := by
  induction path generalizing base tree with
  | nil =>
      cases hmade
      exact hentry
  | cons name rest ih =>
      rw [makeDirectories] at hmade
      split at hmade
      · exact ih hmade hentry
      · cases hmade
      · rename_i hnone
        refine ih hmade ?_
        have hother : other ≠ base ++ [name] := by
          rintro rfl
          rw [hnone] at hentry
          cases hentry
        rwa [Function.update_of_ne hother]

/-- The topmost directory is there. -/
theorem makeDirectories_cons {name : String} {rest : Path}
    (hmade : makeDirectories base (name :: rest) tree = .ok next) :
    next (base ++ [name]) = some .directory := by
  rw [makeDirectories] at hmade
  split at hmade
  · rename_i hthere
    exact makeDirectories_keeps hmade hthere
  · cases hmade
  · exact makeDirectories_keeps hmade (Function.update_self _ _ _)

theorem writeFile_eq_ok_iff :
    writeFile path content tree = .ok next ↔
      tree path.dropLast = some .directory ∧ tree path ≠ some .directory ∧
        next = Function.update tree path (some (.file content)) := by
  unfold writeFile
  split
  · rename_i hthere
    simp [hthere]
  · rename_i hparent hthere
    rw [Except.ok.injEq]
    exact ⟨fun h => ⟨hparent, hthere, h.symm⟩, fun h => h.2.2.symm⟩
  · rename_i hparent _
    exact ⟨nofun, fun h => absurd h.1 hparent⟩

theorem holds_writeFile (hwritten : writeFile path content tree = .ok next)
    {found : List UInt8} :
    Holds next other found ↔
      if other = path then found = content else Holds tree other found := by
  obtain ⟨-, -, rfl⟩ := writeFile_eq_ok_iff.mp hwritten
  unfold Holds
  split
  · rename_i hother
    subst hother
    simp [eq_comm]
  · rename_i hother
    rw [Function.update_of_ne hother]

end Rules

end XianyuAdmin.FileTree

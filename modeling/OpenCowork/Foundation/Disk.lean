import OpenCowork.Foundation.FileTree

/-! # Disks whose operations may fail

What stands at a path of a directory tree, trees that are put elsewhere or removed, and the
operations of a file system on it. Any of them may fail at any time; one that fails leaves
the tree alone, apart from the place that it was about to fill or to empty and the
directories that it was about to make. No directory on the way to a path is a link.
-/

namespace OpenCowork.Foundation

open FileTree

namespace FileTree

variable {κ δ : Type*} [DecidableEq κ] (name : κ) (new : Option (FileTree κ δ))
  {tree : FileTree κ δ} {path other : List κ}

def child : FileTree κ δ → Option (FileTree κ δ)
  | directory entries => (entries.find? fun entry => entry.1 = name).map Prod.snd
  | _ => none

/-- A directory in which a name leads to another tree, or nowhere. -/
def setChild : FileTree κ δ → FileTree κ δ
  | directory entries =>
    directory ((entries.filter fun entry => entry.1 ≠ name) ++ (new.map (name, ·)).toList)
  | tree => tree

def lookup : List κ → FileTree κ δ → Option (FileTree κ δ)
  | [], tree => some tree
  | name :: rest, tree => (tree.child name).bind (lookup rest)

/-- The tree with something else at a path, or with nothing there. -/
def place : List κ → Option (FileTree κ δ) → FileTree κ δ → FileTree κ δ
  | [], new, tree => new.getD tree
  | [name], new, tree => tree.setChild name new
  | name :: second :: rest, new, tree =>
    match tree.child name with
    | some sub => tree.setChild name (some (place (second :: rest) new sub))
    | none => tree

/-- A file, or whatever is no directory, stands on the way to the path. -/
def blocked : List κ → FileTree κ δ → Bool
  | name :: rest, directory entries =>
    match (directory entries).child name with
    | some sub => blocked rest sub
    | none => false
  | [], _ => false
  | _ :: _, _ => true

def isDirectory : FileTree κ δ → Bool
  | directory _ => true
  | _ => false

def makeDirs : List κ → FileTree κ δ → Option (FileTree κ δ)
  | [], tree => if tree.isDirectory then some tree else none
  | name :: rest, tree =>
    if tree.isDirectory then
      (makeDirs rest ((tree.child name).getD (directory []))).map fun sub =>
        tree.setChild name (some sub)
    else none

theorem child_setChild_of_ne {name other : κ} (hne : other ≠ name) (new : Option (FileTree κ δ))
    (tree : FileTree κ δ) : (tree.setChild name new).child other = tree.child other := by
  cases tree with
  | directory =>
    have hnew : ((new.map (name, ·)).toList.find? fun entry => entry.1 = other) = none := by
      cases new with
      | none => rfl
      | some => simp [hne.symm]
    have hkept : (fun entry : κ × FileTree κ δ =>
        decide (decide (entry.1 ≠ name) = true ∧ decide (entry.1 = other) = true)) =
          fun entry => decide (entry.1 = other) := by
      funext entry
      by_cases hentry : entry.1 = other
      · simp [hentry, hne]
      · simp [hentry]
    rw [setChild, child, child, List.find?_append, hnew, Option.or_none, List.find?_filter, hkept]
  | file | link | special => rfl

theorem child_setChild_self
    (htree : tree.isDirectory = true) : (tree.setChild name new).child name = new := by
  cases tree with
  | directory entries =>
    have hkept : ((entries.filter fun entry => entry.1 ≠ name).find? fun entry =>
        entry.1 = name) = none := by
      rw [List.find?_eq_none]
      intro entry hentry
      have hne := of_decide_eq_true (List.mem_filter.mp hentry).2
      simpa using hne
    rw [setChild, child, List.find?_append, hkept, Option.none_or]
    cases new with
    | none => rfl
    | some => simp
  | file | link | special => cases htree

theorem isDirectory_of_child {name : κ} {sub : FileTree κ δ}
    (hchild : tree.child name = some sub) : tree.isDirectory = true := by
  cases tree with
  | directory => rfl
  | file | link | special => cases hchild

theorem lookup_place_of_incomparable (h : Incomparable path other)
    (new : Option (FileTree κ δ)) (tree : FileTree κ δ) :
    (tree.place path new).lookup other = tree.lookup other := by
  induction path generalizing tree other with
  | nil => exact absurd List.nil_prefix h.1
  | cons name path ih =>
    cases other with
    | nil => exact absurd List.nil_prefix h.2
    | cons name' other =>
      by_cases hname : name' = name
      · subst hname
        have hrest : Incomparable path other :=
          ⟨fun hbelow => h.1 (List.cons_prefix_cons.mpr ⟨rfl, hbelow⟩),
            fun hbelow => h.2 (List.cons_prefix_cons.mpr ⟨rfl, hbelow⟩)⟩
        cases path with
        | nil => exact absurd List.nil_prefix hrest.1
        | cons =>
          unfold place
          split
          next sub hchild =>
            rw [lookup, child_setChild_self _ _ (isDirectory_of_child hchild), lookup, hchild]
            exact ih hrest sub
          · rfl
      · have hkept : ∀ sub : Option (FileTree κ δ),
            (tree.setChild name sub).lookup (name' :: other) =
              tree.lookup (name' :: other) := by
          intro sub
          rw [lookup, child_setChild_of_ne hname, lookup]
        cases path with
        | nil => exact hkept new
        | cons =>
          unfold place
          split
          · exact hkept _
          · rfl

theorem lookup_place_self (hpath : path ≠ []) (new : Option (FileTree κ δ))
    {parent : FileTree κ δ} (hparent : tree.lookup path.dropLast = some parent)
    (hdirectory : parent.isDirectory = true) : (tree.place path new).lookup path = new := by
  induction path generalizing tree with
  | nil => exact absurd rfl hpath
  | cons _ path ih =>
    cases path with
    | nil =>
      obtain rfl := Option.some.inj hparent
      rw [place, lookup, child_setChild_self _ _ hdirectory]
      cases new with
      | none | some => rfl
    | cons =>
      rw [List.dropLast_cons_of_ne_nil (List.cons_ne_nil _ _), lookup] at hparent
      obtain ⟨_, hchild, hparent⟩ := Option.bind_eq_some_iff.mp hparent
      unfold place
      rw [hchild]
      rw [lookup, child_setChild_self _ _ (isDirectory_of_child hchild)]
      exact ih (List.cons_ne_nil _ _) hparent

theorem lookup_place_none (hpath : path ≠ []) (tree : FileTree κ δ) :
    (tree.place path none).lookup path = none := by
  induction path generalizing tree with
  | nil => exact absurd rfl hpath
  | cons _ path ih =>
    cases path with
    | nil =>
      rw [place, lookup, Option.bind_eq_none_iff]
      intro sub hsub
      have hdirectory := isDirectory_of_child hsub
      cases tree with
      | directory =>
        rw [child_setChild_self _ _ rfl] at hsub
        cases hsub
      | file | link | special => cases hdirectory
    | cons =>
      unfold place
      split
      next sub hchild =>
        rw [lookup, child_setChild_self _ _ (isDirectory_of_child hchild)]
        exact ih (List.cons_ne_nil _ _) sub
      next hchild => rw [lookup, hchild, Option.bind_none]

theorem lookup_makeDirs (h : ¬other <+: path) {made : FileTree κ δ}
    (hmade : tree.makeDirs path = some made) : made.lookup other = tree.lookup other := by
  induction path generalizing tree made other with
  | nil =>
    unfold makeDirs at hmade
    split at hmade
    · rw [Option.some.inj hmade]
    · cases hmade
  | cons name path ih =>
    unfold makeDirs at hmade
    split at hmade
    next hdirectory =>
      obtain ⟨_, hsub, rfl⟩ := Option.map_eq_some_iff.mp hmade
      cases other with
      | nil => exact absurd List.nil_prefix h
      | cons name' other =>
        by_cases hname : name' = name
        · subst hname
          have hrest : ¬other <+: path := fun hbelow => h (List.cons_prefix_cons.mpr ⟨rfl, hbelow⟩)
          rw [lookup, child_setChild_self _ _ hdirectory, lookup]
          have hbelow := ih hrest hsub
          cases hchild : tree.child name' with
          | some =>
            rw [hchild] at hbelow
            exact hbelow
          | none =>
            rw [hchild] at hbelow
            rw [Option.bind_some, Option.bind_none, hbelow]
            cases other with
            | nil => exact absurd List.nil_prefix hrest
            | cons => rfl
        · rw [lookup, child_setChild_of_ne hname, lookup]
    · cases hmade

end FileTree

/-- How an operation fails: its error, what it leaves in the place that it was about to fill
or to empty, and how many directories on the way it went through. -/
structure DiskFault (κ δ : Type*) where
  error : String
  leaves : Option (FileTree κ δ) → Option (FileTree κ δ)
  depth : Nat

/-- A directory tree, with the number of the operations that were tried on it. -/
structure Disk (κ δ : Type*) where
  tree : FileTree κ δ
  operations : Nat

/-- Which operations fail, by their number. -/
abbrev DiskFaults (κ δ : Type*) := Nat → Option (DiskFault κ δ)

namespace Disk

variable {κ δ : Type*} [DecidableEq κ]

def lookup (disk : Disk κ δ) (path : List κ) : Option (FileTree κ δ) := disk.tree.lookup path

/-- An operation fails if its time has come to, or if it does not apply. -/
def perform {α : Type*} (faults : DiskFaults κ δ) (disk : Disk κ δ)
    (spoil : DiskFault κ δ → FileTree κ δ) (act : Except String (α × FileTree κ δ)) :
    Except String α × Disk κ δ :=
  match faults disk.operations, act with
  | some fault, _ => (.error fault.error, ⟨spoil fault, disk.operations + 1⟩)
  | none, .error thrown => (.error thrown, ⟨disk.tree, disk.operations + 1⟩)
  | none, .ok (answer, tree) => (.ok answer, ⟨tree, disk.operations + 1⟩)

/-- What is left at a path where an operation failed. -/
def spoilAt (disk : Disk κ δ) (path : List κ) (fault : DiskFault κ δ) : FileTree κ δ :=
  disk.tree.place path (fault.leaves (disk.lookup path))

variable (faults : DiskFaults κ δ)

def lstat (disk : Disk κ δ) (path : List κ) :
    Except String (Option (FileTree κ δ)) × Disk κ δ :=
  disk.perform faults (fun _ => disk.tree)
    (if disk.tree.blocked path then .error "ENOTDIR" else .ok (disk.lookup path, disk.tree))

/-- The directory that a path lies in exists. -/
def hasParent (disk : Disk κ δ) (path : List κ) : Bool :=
  path ≠ [] && (disk.lookup path.dropLast).any FileTree.isDirectory

def mkdir (disk : Disk κ δ) (path : List κ) : Except String Unit × Disk κ δ :=
  disk.perform faults (fun _ => disk.tree)
    (if (disk.lookup path).isSome then .error "EEXIST"
    else if disk.hasParent path then
      .ok ((), disk.tree.place path (some (.directory [])))
    else .error "ENOENT")

/-- `mkdir` with `recursive`. -/
def mkdirs (disk : Disk κ δ) (path : List κ) : Except String Unit × Disk κ δ :=
  disk.perform faults (fun fault => (disk.tree.makeDirs (path.take fault.depth)).getD disk.tree)
    (match disk.tree.makeDirs path with
    | some tree => .ok ((), tree)
    | none => .error "ENOTDIR")

/-- One tree may take the place of another: what it replaces is an empty directory if it is
itself a directory, and no directory otherwise. -/
def mayReplace (new : FileTree κ δ) : Option (FileTree κ δ) → Bool
  | none => true
  | some (.directory entries) => new.isDirectory && entries.isEmpty
  | some _ => !new.isDirectory

def rename (disk : Disk κ δ) (source target : List κ) : Except String Unit × Disk κ δ :=
  disk.perform faults (fun _ => disk.tree)
    (match disk.lookup source with
    | none => .error "ENOENT"
    | some moved =>
      if disk.hasParent target then
        if source <+: target then .error "EINVAL"
        else if mayReplace moved (disk.lookup target) then
          .ok ((), (disk.tree.place target (some moved)).place source none)
        else .error "ENOTEMPTY"
      else .error "ENOENT")

/-- `rm` with `recursive` and `force`. -/
def rm (disk : Disk κ δ) (path : List κ) : Except String Unit × Disk κ δ :=
  disk.perform faults (disk.spoilAt path)
    (if path = [] then .error "EBUSY"
    else if disk.tree.blocked path then .error "ENOTDIR"
    else .ok ((), disk.tree.place path none))

/-- `writeFile` with the flag `wx`. -/
def writeFile (disk : Disk κ δ) (path : List κ) (data : δ) : Except String Unit × Disk κ δ :=
  disk.perform faults (disk.spoilAt path)
    (if (disk.lookup path).isSome then .error "EEXIST"
    else if disk.hasParent path then .ok ((), disk.tree.place path (some (.file data)))
    else .error "ENOENT")

/-- Changes what is told of a file. -/
def utimes (disk : Disk κ δ) (path : List κ) (set : δ → δ) : Except String Unit × Disk κ δ :=
  disk.perform faults (fun _ => disk.tree)
    (match disk.lookup path with
    | some (.file data) => .ok ((), disk.tree.place path (some (.file (set data))))
    | _ => .error "ENOENT")

section Frames

variable {faults} {disk : Disk κ δ} {path other : List κ}
variable {α : Type*} {source target : List κ} {spoil : DiskFault κ δ → FileTree κ δ}
variable {act : Except String (α × FileTree κ δ)}
variable {after : Disk κ δ}

theorem lookup_perform (hspoil : ∀ fault, (spoil fault).lookup other = disk.lookup other)
    (hact : ∀ answer tree, act = .ok (answer, tree) → tree.lookup other = disk.lookup other) :
    (disk.perform faults spoil act).2.lookup other = disk.lookup other := by
  unfold perform
  split
  · exact hspoil _
  · rfl
  · exact hact _ _ rfl

omit [DecidableEq κ] in
theorem perform_eq_ok {answer : α} {after : Disk κ δ}
    (h : disk.perform faults spoil act = (.ok answer, after)) :
    ∃ tree, act = .ok (answer, tree) ∧ after.tree = tree := by
  unfold perform at h
  split at h
  · cases h
  · cases h
  · cases h
    exact ⟨_, rfl, rfl⟩

theorem lookup_spoilAt (h : Incomparable path other) (fault : DiskFault κ δ) :
    (disk.spoilAt path fault).lookup other = disk.lookup other :=
  lookup_place_of_incomparable h _ _

@[simp] theorem lookup_lstat : (disk.lstat faults path).2.lookup other = disk.lookup other := by
  apply lookup_perform (fun _ => rfl)
  intro _ _ hact
  split at hact
  · cases hact
  · cases hact
    rfl

theorem lookup_mkdir (h : Incomparable path other) :
    (disk.mkdir faults path).2.lookup other = disk.lookup other := by
  apply lookup_perform (fun _ => rfl)
  intro _ _ hact
  split at hact
  · cases hact
  · split at hact
    · cases hact
      exact lookup_place_of_incomparable h _ _
    · cases hact

theorem lookup_mkdirs (h : ¬other <+: path) :
    (disk.mkdirs faults path).2.lookup other = disk.lookup other := by
  apply lookup_perform
  · intro fault
    have hshort : ¬other <+: path.take fault.depth :=
      fun hbelow => h (hbelow.trans (List.take_prefix _ _))
    cases hmade : disk.tree.makeDirs (path.take fault.depth) with
    | none => rfl
    | some => exact lookup_makeDirs hshort hmade
  · intro _ _ hact
    split at hact
    next hmade =>
      cases hact
      exact lookup_makeDirs h hmade
    · cases hact

theorem lookup_rename (hsource : Incomparable source other) (htarget : Incomparable target other) :
    (disk.rename faults source target).2.lookup other = disk.lookup other := by
  apply lookup_perform (fun _ => rfl)
  intro _ _ hact
  split at hact
  · cases hact
  · split at hact
    · split at hact
      · cases hact
      · split at hact
        · cases hact
          rw [lookup_place_of_incomparable hsource, lookup_place_of_incomparable htarget]
          rfl
        · cases hact
    · cases hact

variable (h : Incomparable path other)
include h

theorem lookup_rm : (disk.rm faults path).2.lookup other = disk.lookup other := by
  apply lookup_perform (lookup_spoilAt h)
  intro _ _ hact
  split at hact
  · cases hact
  · split at hact
    · cases hact
    · cases hact
      exact lookup_place_of_incomparable h _ _

theorem lookup_writeFile (data : δ) :
    (disk.writeFile faults path data).2.lookup other = disk.lookup other := by
  apply lookup_perform (lookup_spoilAt h)
  intro _ _ hact
  split at hact
  · cases hact
  · split at hact
    · cases hact
      exact lookup_place_of_incomparable h _ _
    · cases hact

theorem lookup_utimes (set : δ → δ) :
    (disk.utimes faults path set).2.lookup other = disk.lookup other := by
  apply lookup_perform (fun _ => rfl)
  intro _ _ hact
  split at hact
  · cases hact
    exact lookup_place_of_incomparable h _ _
  · cases hact

omit h

theorem lookup_of_eq {outcome : Except String α × Disk κ δ}
    {answer : Except String α} (h : outcome = (answer, after))
    (hframe : outcome.2.lookup other = disk.lookup other) :
    after.lookup other = disk.lookup other := by
  rw [h] at hframe
  exact hframe

theorem rename_eq_error {thrown : String}
    (h : disk.rename faults source target = (.error thrown, after)) : after.tree = disk.tree := by
  unfold rename perform at h
  split at h
  · cases h
    rfl
  · cases h
    rfl
  · cases h

theorem lstat_eq_ok {found : Option (FileTree κ δ)}
    (h : disk.lstat faults path = (.ok found, after)) :
    found = disk.lookup path ∧ ∀ other, after.lookup other = disk.lookup other := by
  refine ⟨?_, fun _ => ?_⟩
  · obtain ⟨_, hact, _⟩ := perform_eq_ok h
    split at hact
    · cases hact
    · cases hact
      rfl
  · exact lookup_of_eq h lookup_lstat

theorem rename_eq_ok (hapart : Incomparable source target)
    (h : disk.rename faults source target = (.ok (), after)) :
    ∃ moved, disk.lookup source = some moved ∧ after.lookup target = some moved ∧
      after.lookup source = none := by
  obtain ⟨_, hact, htree⟩ := perform_eq_ok h
  split at hact
  · cases hact
  next moved hmoved =>
    split at hact
    next hparent =>
      split at hact
      · cases hact
      · split at hact
        · cases hact
          rw [hasParent, Bool.and_eq_true, decide_eq_true_eq, Option.any_eq_true] at hparent
          obtain ⟨htarget, _, hfound, hdirectory⟩ := hparent
          refine ⟨moved, hmoved, ?_, ?_⟩
          · rw [lookup, htree, lookup_place_of_incomparable hapart]
            exact lookup_place_self htarget _ hfound hdirectory
          · rw [lookup, htree]
            apply lookup_place_none
            rintro rfl
            exact hapart.1 List.nil_prefix
        · cases hact
    · cases hact

theorem rm_eq_ok (h : disk.rm faults path = (.ok (), after)) : after.lookup path = none := by
  obtain ⟨_, hact, htree⟩ := perform_eq_ok h
  split at hact
  · cases hact
  next hpath =>
    split at hact
    · cases hact
    · cases hact
      rw [lookup, htree]
      exact lookup_place_none hpath _

end Frames

end Disk

end OpenCowork.Foundation

import OpenCowork.Foundation.Disk
import OpenCowork.Foundation.Process

/-! # Processes on a directory tree

The operations of a file system that go through whenever they apply, as operations of
processes. Paths are read from the root of the tree, and no directory on the way is a link.
-/

namespace OpenCowork.Foundation

namespace FileTree

variable {κ δ : Type} [DecidableEq κ] {name other : κ} {tree : FileTree κ δ} (rest : List κ)
  (new : Option (FileTree κ δ))

@[simp] theorem lookup_nil : tree.lookup [] = some tree := rfl

theorem lookup_cons : tree.lookup (name :: rest) = (tree.child name).bind (lookup rest) := rfl

@[simp] theorem lookup_singleton : tree.lookup [name] = tree.child name := by
  rw [lookup_cons]
  cases tree.child name <;> rfl

@[simp] theorem isDirectory_setChild : (tree.setChild name new).isDirectory = tree.isDirectory := by
  cases tree <;> rfl

theorem place_singleton : tree.place [name] new = tree.setChild name new := rfl

@[simp] theorem isDirectory_place :
    (tree.place (name :: rest) new).isDirectory = tree.isDirectory := by
  cases rest with
  | nil => exact isDirectory_setChild new
  | cons =>
    unfold place
    split
    · exact isDirectory_setChild _
    · rfl

theorem child_place_of_ne (hne : other ≠ name) (rest : List κ) (new : Option (FileTree κ δ)) :
    (tree.place (name :: rest) new).child other = tree.child other := by
  cases rest with
  | nil => exact child_setChild_of_ne hne new tree
  | cons =>
    unfold place
    split
    · exact child_setChild_of_ne hne _ tree
    · rfl

theorem child_place_cons (second : κ) (rest : List κ) (new : Option (FileTree κ δ)) :
    (tree.place (name :: second :: rest) new).child name =
      (tree.child name).map (place (second :: rest) new) := by
  unfold place
  split
  next hsub => rw [hsub, child_setChild_self _ _ (isDirectory_of_child hsub)]; rfl
  next hnone => rw [hnone]; rfl

/-- The tree after these paths have been unlinked. -/
def unlink (tree : FileTree κ δ) (paths : List (List κ)) : FileTree κ δ :=
  paths.foldl (fun tree path => tree.place path none) tree

/-- A file stays as it is, or goes. -/
theorem lookup_place_none_or {path other : List κ} (hpath : path ≠ [])
    (hfile : (tree.lookup other).any isDirectory = false) :
    (tree.place path none).lookup other = none ∨
      (tree.place path none).lookup other = tree.lookup other := by
  induction path generalizing tree other with
  | nil => exact absurd rfl hpath
  | cons name path ih =>
    cases other with
    | nil =>
      cases tree with
      | directory => cases hfile
      | file | link | special => cases path <;> exact .inr rfl
    | cons name' other =>
      by_cases hname : name' = name
      · subst hname
        cases path with
        | nil => exact .inl (by rw [lookup_cons, ← lookup_singleton, lookup_place_none hpath]; rfl)
        | cons second rest =>
          rw [lookup_cons, child_place_cons, lookup_cons]
          rw [lookup_cons] at hfile
          cases hchild : tree.child name' with
          | none => exact .inl rfl
          | some =>
            rw [hchild] at hfile
            exact ih (List.cons_ne_nil _ _) hfile
      · exact .inr (by rw [lookup_cons, child_place_of_ne hname, lookup_cons])

section Unlink

variable {paths : List (List κ)} (hpaths : ∀ path ∈ paths, path.head? = some name)
include hpaths

theorem isDirectory_unlink : (tree.unlink paths).isDirectory = tree.isDirectory := by
  induction paths generalizing tree with
  | nil => rfl
  | cons path _ ih =>
    obtain ⟨hpath, hrest⟩ := List.forall_mem_cons.mp hpaths
    obtain ⟨_, rfl⟩ := List.head?_eq_some_iff.mp hpath
    exact (ih hrest).trans (isDirectory_place _ _)

theorem lookup_unlink_of_ne (hne : other ≠ name) :
    (tree.unlink paths).lookup (other :: rest) = tree.lookup (other :: rest) := by
  induction paths generalizing tree with
  | nil => rfl
  | cons path _ ih =>
    obtain ⟨hpath, hrest⟩ := List.forall_mem_cons.mp hpaths
    obtain ⟨_, rfl⟩ := List.head?_eq_some_iff.mp hpath
    exact (ih hrest).trans (by rw [lookup_cons, child_place_of_ne hne, lookup_cons])

theorem lookup_unlink_or {other : List κ} (hfile : (tree.lookup other).any isDirectory = false) :
    (tree.unlink paths).lookup other = none ∨
      (tree.unlink paths).lookup other = tree.lookup other := by
  induction paths generalizing tree with
  | nil => exact .inr rfl
  | cons path _ ih =>
    obtain ⟨hpath, hrest⟩ := List.forall_mem_cons.mp hpaths
    obtain ⟨_, rfl⟩ := List.head?_eq_some_iff.mp hpath
    rcases lookup_place_none_or (List.cons_ne_nil _ _) hfile with hgone | hsame
    · exact .inl ((ih hrest (by rw [hgone]; rfl)).elim id fun h => h.trans hgone)
    · exact (ih hrest (hsame ▸ hfile)).imp id fun h => h.trans hsame

end Unlink

structure SameAt (names : κ → Prop) (left right : FileTree κ δ) : Prop where
  leftRoot : left.isDirectory = true
  rightRoot : right.isDirectory = true
  child : ∀ name, names name → left.child name = right.child name

namespace SameAt

variable {names : κ → Prop} {left right : FileTree κ δ}

theorem refl (hleft : left.isDirectory = true) : SameAt names left left :=
  ⟨hleft, hleft, fun _ _ => rfl⟩

variable (h : SameAt names left right)
include h

theorem lookup (hname : names name) (rest : List κ) :
    left.lookup (name :: rest) = right.lookup (name :: rest) := by
  rw [lookup_cons, lookup_cons, h.child name hname]

theorem place (hname : names name) (rest : List κ) (new : Option (FileTree κ δ)) :
    SameAt names (left.place (name :: rest) new) (right.place (name :: rest) new) := by
  refine ⟨by rw [isDirectory_place, h.leftRoot], by rw [isDirectory_place, h.rightRoot], ?_⟩
  intro other hother
  by_cases hne : other = name
  · subst hne
    cases rest with
    | nil =>
      rw [place_singleton, place_singleton, child_setChild_self _ _ h.leftRoot,
        child_setChild_self _ _ h.rightRoot]
    | cons => rw [child_place_cons, child_place_cons, h.child other hname]
  · rw [child_place_of_ne hne, child_place_of_ne hne, h.child other hother]

theorem makeDirs (hname : names name) (rest : List κ) :
    left.makeDirs (name :: rest) = none ∧ right.makeDirs (name :: rest) = none ∨
      ∃ made made', left.makeDirs (name :: rest) = some made ∧
        right.makeDirs (name :: rest) = some made' ∧ SameAt names made made' := by
  simp only [FileTree.makeDirs, h.leftRoot, h.rightRoot, if_true, h.child name hname]
  cases FileTree.makeDirs rest ((right.child name).getD (directory [])) with
  | none => exact .inl ⟨rfl, rfl⟩
  | some sub => exact .inr ⟨_, _, rfl, rfl, h.place hname [] (some sub)⟩

theorem place_right (hname : ¬names name) (rest : List κ)
    (new : Option (FileTree κ δ)) : SameAt names left (right.place (name :: rest) new) := by
  refine ⟨h.leftRoot, (isDirectory_place _ _).trans h.rightRoot, fun other hother => ?_⟩
  have hne : other ≠ name := by
    rintro rfl
    exact hname hother
  rw [child_place_of_ne hne]
  exact h.child other hother

theorem makeDirs_right (hname : ¬names name) {rest : List κ}
    {made : FileTree κ δ} (hmade : right.makeDirs (name :: rest) = some made) :
    SameAt names left made := by
  simp only [FileTree.makeDirs, h.rightRoot, if_true] at hmade
  obtain ⟨sub, -, rfl⟩ := Option.map_eq_some_iff.mp hmade
  exact h.place_right hname [] (some sub)

end SameAt

end FileTree

/-- An operation on a directory tree, under the names of Node. -/
inductive FileOp (κ δ : Type) where
  | existsSync (path : List κ)
  | readFileSync (path : List κ)
  | lstatSync (path : List κ)
  | readdirSync (path : List κ)
  | mkdirSync (path : List κ)
  | mkdtempSync (path : List κ)
  | renameSync (source target : List κ)
  | copyFileSync (source target : List κ)
  | writeFileSync (path : List κ) (data : δ)
  | rmSync (path : List κ)
  | rmSyncRecursive (path : List κ)
  | other (act : FileTree κ δ → Except String Unit × FileTree κ δ)

namespace FileOp

variable {κ δ : Type}

/-- What the operation answers: whether something is there, the data of a file, whether a path
names a directory, the names in a directory, or nothing. -/
def Result : FileOp κ δ → Type
  | existsSync _ => Bool
  | readFileSync _ => δ
  | lstatSync _ => Bool
  | readdirSync _ => List κ
  | _ => Unit

variable [DecidableEq κ]

/-- The directory that a path lies in exists. -/
def hasParent (tree : FileTree κ δ) (path : List κ) : Bool :=
  path ≠ [] && (tree.lookup path.dropLast).any FileTree.isDirectory

def contents (tree : FileTree κ δ) (path : List κ) : Except String δ :=
  match tree.lookup path with
  | some (.file data) => .ok data
  | some _ => .error "EISDIR"
  | none => .error "ENOENT"

def put (tree : FileTree κ δ) (path : List κ) (new : FileTree κ δ) :
    Except String Unit × FileTree κ δ :=
  if hasParent tree path then
    if Disk.mayReplace new (tree.lookup path) then (.ok (), tree.place path (some new))
    else (.error "EISDIR", tree)
  else (.error "ENOENT", tree)

/-- Whether a path names a directory. -/
def stat (tree : FileTree κ δ) (path : List κ) : Except String Bool :=
  match tree.lookup path with
  | some found => .ok found.isDirectory
  | none => .error "ENOENT"

def namesIn (tree : FileTree κ δ) (path : List κ) : Except String (List κ) :=
  match tree.lookup path with
  | some (.directory entries) => .ok (entries.map Prod.fst)
  | some _ => .error "ENOTDIR"
  | none => .error "ENOENT"

def makeRecursive (tree : FileTree κ δ) (path : List κ) : Except String Unit × FileTree κ δ :=
  match tree.makeDirs path with
  | some made => (.ok (), made)
  | none => (.error "ENOTDIR", tree)

def makeNew (tree : FileTree κ δ) (path : List κ) : Except String Unit × FileTree κ δ :=
  if (tree.lookup path).isSome then (.error "EEXIST", tree) else put tree path (.directory [])

def move (tree : FileTree κ δ) (source target : List κ) : Except String Unit × FileTree κ δ :=
  match tree.lookup source with
  | none => (.error "ENOENT", tree)
  | some moved =>
    if source <+: target then (.error "EINVAL", tree)
    else
      match put tree target moved with
      | (.ok (), placed) => (.ok (), placed.place source none)
      | (.error thrown, placed) => (.error thrown, placed)

def copy (tree : FileTree κ δ) (source target : List κ) : Except String Unit × FileTree κ δ :=
  match contents tree source with
  | .ok data => put tree target (.file data)
  | .error thrown => (.error thrown, tree)

/-- `rmSync` with `force`. -/
def remove (tree : FileTree κ δ) (path : List κ) : Except String Unit × FileTree κ δ :=
  if (tree.lookup path).any FileTree.isDirectory then (.error "ERR_FS_EISDIR", tree)
  else (.ok (), tree.place path none)

def handle : Handler (@Result κ δ) (FileTree κ δ)
  | existsSync path, tree => (.ok (tree.lookup path).isSome, tree)
  | readFileSync path, tree => (contents tree path, tree)
  | lstatSync path, tree => (stat tree path, tree)
  | readdirSync path, tree => (namesIn tree path, tree)
  | mkdirSync path, tree => makeRecursive tree path
  | mkdtempSync path, tree => makeNew tree path
  | renameSync source target, tree => move tree source target
  | copyFileSync source target, tree => copy tree source target
  | writeFileSync path data, tree => put tree path (.file data)
  | rmSync path, tree => remove tree path
  | rmSyncRecursive path, tree => (.ok (), tree.place path none)
  | other act, tree => act tree

def Within (names : κ → Prop) : FileOp κ δ → Prop
  | existsSync path | readFileSync path | lstatSync path | readdirSync path | mkdirSync path
  | mkdtempSync path | writeFileSync path _ | rmSync path | rmSyncRecursive path =>
    ∃ name rest, path = name :: rest ∧ names name
  | renameSync source target | copyFileSync source target =>
    (∃ name rest, source = name :: rest ∧ names name) ∧
      ∃ name rest, target = name :: rest ∧ names name
  | other _ => False

section Blind

variable {names : κ → Prop} {left right : FileTree κ δ} {name : κ}

section

variable (h : FileTree.SameAt names left right) {name' : κ}
include h

section

variable (hname : names name) (rest : List κ)
include hname rest

theorem hasParent_same : hasParent left (name :: rest) = hasParent right (name :: rest) := by
  cases rest with
  | nil => simp [hasParent, h.leftRoot, h.rightRoot]
  | cons =>
    rw [hasParent, hasParent, List.dropLast_cons_of_ne_nil (List.cons_ne_nil _ _), h.lookup hname]

theorem contents_same : contents left (name :: rest) = contents right (name :: rest) := by
  rw [contents, contents, h.lookup hname]

theorem put_same (new : FileTree κ δ) :
    (put right (name :: rest) new).1 = (put left (name :: rest) new).1 ∧
      FileTree.SameAt names (put left (name :: rest) new).2 (put right (name :: rest) new).2 := by
  rw [put, put, hasParent_same h hname, h.lookup hname]
  split
  · split
    · exact ⟨rfl, h.place hname rest _⟩
    · exact ⟨rfl, h⟩
  · exact ⟨rfl, h⟩

theorem makeRecursive_same :
    (makeRecursive right (name :: rest)).1 = (makeRecursive left (name :: rest)).1 ∧
      FileTree.SameAt names (makeRecursive left (name :: rest)).2
        (makeRecursive right (name :: rest)).2 := by
  unfold makeRecursive
  rcases h.makeDirs hname rest with ⟨hleft, hright⟩ | ⟨_, _, hleft, hright, hmade⟩
  · rw [hleft, hright]
    exact ⟨rfl, h⟩
  · rw [hleft, hright]
    exact ⟨rfl, hmade⟩

theorem makeNew_same :
    (makeNew right (name :: rest)).1 = (makeNew left (name :: rest)).1 ∧
      FileTree.SameAt names (makeNew left (name :: rest)).2 (makeNew right (name :: rest)).2 := by
  rw [makeNew, makeNew, h.lookup hname]
  split
  · exact ⟨rfl, h⟩
  · exact put_same h hname rest _

end

theorem move_same (hname : names name) (rest : List κ) (hname' : names name') (rest' : List κ) :
    (move right (name :: rest) (name' :: rest')).1 =
        (move left (name :: rest) (name' :: rest')).1 ∧
      FileTree.SameAt names (move left (name :: rest) (name' :: rest')).2
        (move right (name :: rest) (name' :: rest')).2 := by
  rw [move, move, h.lookup hname]
  split
  · exact ⟨rfl, h⟩
  next moved _ =>
    split
    · exact ⟨rfl, h⟩
    · obtain ⟨hanswer, hafter⟩ := put_same h hname' rest' moved
      generalize put left (name' :: rest') moved = leftPut at hanswer hafter
      generalize put right (name' :: rest') moved = rightPut at hanswer hafter
      obtain ⟨answer, _⟩ := leftPut
      obtain ⟨answer', _⟩ := rightPut
      obtain rfl : answer' = answer := hanswer
      cases answer' with
      | ok => exact ⟨rfl, hafter.place hname rest none⟩
      | error => exact ⟨rfl, hafter⟩

theorem copy_same (hname : names name) (rest : List κ) (hname' : names name') (rest' : List κ) :
    (copy right (name :: rest) (name' :: rest')).1 =
        (copy left (name :: rest) (name' :: rest')).1 ∧
      FileTree.SameAt names (copy left (name :: rest) (name' :: rest')).2
        (copy right (name :: rest) (name' :: rest')).2 := by
  rw [copy, copy, contents_same h hname]
  split
  · exact put_same h hname' rest' _
  · exact ⟨rfl, h⟩

theorem remove_same (hname : names name) (rest : List κ) :
    (remove right (name :: rest)).1 = (remove left (name :: rest)).1 ∧
      FileTree.SameAt names (remove left (name :: rest)).2 (remove right (name :: rest)).2 := by
  rw [remove, remove, h.lookup hname]
  split
  · exact ⟨rfl, h⟩
  · exact ⟨rfl, h.place hname rest none⟩

end

/-- An operation on some of the names does not see what stands under the others. -/
theorem Within.blind {op : FileOp κ δ} (hop : op.Within names) :
    Process.Blind handle (FileTree.SameAt names) op left := by
  intro right h
  cases op with
  | existsSync =>
    obtain ⟨name, rest, rfl, hname⟩ := hop
    have hfound : (right.lookup (name :: rest)).isSome = (left.lookup (name :: rest)).isSome := by
      rw [h.lookup hname]
    exact ⟨congrArg Except.ok hfound, h⟩
  | readFileSync =>
    obtain ⟨name, rest, rfl, hname⟩ := hop
    exact ⟨(contents_same h hname rest).symm, h⟩
  | lstatSync =>
    obtain ⟨name, rest, rfl, hname⟩ := hop
    have hstat : stat right (name :: rest) = stat left (name :: rest) := by
      rw [stat, stat, h.lookup hname]
    exact ⟨hstat, h⟩
  | readdirSync =>
    obtain ⟨name, rest, rfl, hname⟩ := hop
    have hnames : namesIn right (name :: rest) = namesIn left (name :: rest) := by
      rw [namesIn, namesIn, h.lookup hname]
    exact ⟨hnames, h⟩
  | mkdirSync =>
    obtain ⟨name, rest, rfl, hname⟩ := hop
    exact makeRecursive_same h hname rest
  | mkdtempSync =>
    obtain ⟨name, rest, rfl, hname⟩ := hop
    exact makeNew_same h hname rest
  | renameSync =>
    obtain ⟨⟨name, rest, rfl, hname⟩, ⟨name', rest', rfl, hname'⟩⟩ := hop
    exact move_same h hname rest hname' rest'
  | copyFileSync =>
    obtain ⟨⟨name, rest, rfl, hname⟩, ⟨_, rest', rfl, hname'⟩⟩ := hop
    exact copy_same h hname rest hname' rest'
  | writeFileSync =>
    obtain ⟨name, rest, rfl, hname⟩ := hop
    exact put_same h hname rest _
  | rmSync =>
    obtain ⟨name, rest, rfl, hname⟩ := hop
    exact remove_same h hname rest
  | rmSyncRecursive =>
    obtain ⟨_, rest, rfl, hname⟩ := hop
    exact ⟨rfl, h.place hname rest none⟩
  | other => exact hop.elim

theorem makeRecursive_root (h : left.isDirectory = true) :
    makeRecursive left [] = (.ok (), left) := by
  simp only [makeRecursive, FileTree.makeDirs, h, if_true]

theorem blind_mkdirSync_root :
    Process.Blind handle (FileTree.SameAt names) (.mkdirSync [] : FileOp κ δ) left := by
  intro right h
  show (makeRecursive right []).1 = (makeRecursive left []).1 ∧
    FileTree.SameAt names (makeRecursive left []).2 (makeRecursive right []).2
  rw [makeRecursive_root h.leftRoot, makeRecursive_root h.rightRoot]
  exact ⟨rfl, h⟩

end Blind

omit [DecidableEq κ] in
theorem Within.mono {inner outer : κ → Prop} {op : FileOp κ δ} (h : op.Within inner)
    (hnames : ∀ name, inner name → outer name) : op.Within outer := by
  have hpath : ∀ {path : List κ}, (∃ name rest, path = name :: rest ∧ inner name) →
      ∃ name rest, path = name :: rest ∧ outer name := by
    rintro _ ⟨name, rest, hpath, hname⟩
    exact ⟨name, rest, hpath, hnames name hname⟩
  cases op with
  | existsSync | readFileSync | lstatSync | readdirSync | mkdirSync | mkdtempSync => exact hpath h
  | renameSync | copyFileSync => exact ⟨hpath h.1, hpath h.2⟩
  | writeFileSync | rmSync | rmSyncRecursive => exact hpath h
  | other => exact h.elim

section Changes

variable {names : κ → Prop} {left right : FileTree κ δ} {name : κ}

section

variable (h : FileTree.SameAt names left right)
include h

variable (hname : ¬names name)
include hname

theorem put_right (rest : List κ)
    (new : FileTree κ δ) : FileTree.SameAt names left (put right (name :: rest) new).2 := by
  unfold put
  split
  · split
    · exact h.place_right hname rest _
    · exact h
  · exact h

theorem makeNew_right
    (rest : List κ) : FileTree.SameAt names left (makeNew right (name :: rest)).2 := by
  unfold makeNew
  split
  · exact h
  · exact put_right h hname rest _

theorem makeRecursive_right
    (rest : List κ) : FileTree.SameAt names left (makeRecursive right (name :: rest)).2 := by
  unfold makeRecursive
  split
  next hmade => exact h.makeDirs_right hname hmade
  · exact h

theorem copy_right
    (source rest : List κ) : FileTree.SameAt names left (copy right source (name :: rest)).2 := by
  unfold copy
  split
  · exact put_right h hname rest _
  · exact h

theorem move_right {name' : κ} (rest : List κ) (hname' : ¬names name') (rest' : List κ) :
    FileTree.SameAt names left (move right (name :: rest) (name' :: rest')).2 := by
  unfold move
  split
  · exact h
  next moved _ =>
    split
    · exact h
    · have hput := put_right h hname' rest' moved
      generalize put right (name' :: rest') moved = outcome at hput
      obtain ⟨answer, _⟩ := outcome
      cases answer with
      | ok => exact hput.place_right hname rest none
      | error => exact hput

theorem remove_right
    (rest : List κ) : FileTree.SameAt names left (remove right (name :: rest)).2 := by
  unfold remove
  split
  · exact h
  · exact h.place_right hname rest none

end

theorem Within.sameAt {inner : κ → Prop} {op : FileOp κ δ} (hop : op.Within inner)
    (h : FileTree.SameAt names left right) (hapart : ∀ name, inner name → ¬names name) :
    FileTree.SameAt names left (handle op right).2 := by
  cases op with
  | existsSync | readFileSync | lstatSync | readdirSync => exact h
  | mkdirSync =>
    obtain ⟨name, rest, rfl, hname⟩ := hop
    exact makeRecursive_right h (hapart name hname) rest
  | mkdtempSync =>
    obtain ⟨name, rest, rfl, hname⟩ := hop
    exact makeNew_right h (hapart name hname) rest
  | renameSync =>
    obtain ⟨⟨name, rest, rfl, hname⟩, ⟨name', rest', rfl, hname'⟩⟩ := hop
    exact move_right h (hapart name hname) rest (hapart name' hname') rest'
  | copyFileSync source =>
    obtain ⟨-, ⟨name, rest, rfl, hname⟩⟩ := hop
    exact copy_right h (hapart name hname) source rest
  | writeFileSync =>
    obtain ⟨name, rest, rfl, hname⟩ := hop
    exact put_right h (hapart name hname) rest _
  | rmSync =>
    obtain ⟨name, rest, rfl, hname⟩ := hop
    exact remove_right h (hapart name hname) rest
  | rmSyncRecursive =>
    obtain ⟨name, rest, rfl, hname⟩ := hop
    exact h.place_right (hapart name hname) rest none
  | other => exact hop.elim

end Changes

section Effects

variable {tree after : FileTree κ δ} {path other : List κ} {source target : List κ} {data : δ}
  {name : κ}

theorem not_mem_namesIn {names : List κ} (hnames : namesIn tree [] = .ok names)
    (hnone : tree.lookup [name] = none) : name ∉ names := by
  cases tree with
  | directory =>
    cases hnames
    rw [FileTree.lookup_singleton, FileTree.child, Option.map_eq_none_iff,
      List.find?_eq_none] at hnone
    intro hmem
    obtain ⟨entry, hentry, heq⟩ := List.mem_map.mp hmem
    exact hnone entry hentry (decide_eq_true heq)
  | file | link | special => cases hnames

theorem contents_eq_ok : contents tree path = .ok data ↔ tree.lookup path = some (.file data) := by
  unfold contents
  split
  next _ hfound => rw [hfound, Except.ok.injEq, Option.some.injEq, FileTree.file.injEq]
  next hnot hfound =>
    refine iff_of_false (fun h => by cases h) fun h => ?_
    exact hnot data (Option.mem_unique hfound h)
  next hnone => exact iff_of_false (fun h => by cases h) (by simp [hnone])

theorem put_file (data : δ) (hparent : hasParent tree path = true)
    (hplace : (tree.lookup path).any FileTree.isDirectory = false) :
    put tree path (.file data) = (.ok (), tree.place path (some (.file data))) := by
  have hreplace : Disk.mayReplace (.file data) (tree.lookup path) = true := by
    cases hfound : tree.lookup path with
    | none => rfl
    | some found =>
      rw [hfound] at hplace
      cases found with
      | directory => cases hplace
      | file | link | special => rfl
  rw [put, if_pos hparent, if_pos hreplace]

theorem hasParent_singleton (hroot : tree.isDirectory = true) : hasParent tree [name] = true := by
  simpa [hasParent] using hroot

theorem remove_file (hplace : (tree.lookup path).any FileTree.isDirectory = false) :
    remove tree path = (.ok (), tree.place path none) := by
  rw [remove, hplace, if_neg Bool.false_ne_true]

theorem move_file (hapart : Incomparable source target)
    (hfile : tree.lookup source = some (.file data)) (hparent : hasParent tree target = true)
    (hplace : (tree.lookup target).any FileTree.isDirectory = false) :
    move tree source target =
      (.ok (), (tree.place target (some (.file data))).place source none) := by
  unfold move
  rw [hfile]
  dsimp only
  rw [if_neg hapart.1, put_file data hparent hplace]

theorem copy_file
    (hfile : tree.lookup source = some (.file data)) (hparent : hasParent tree target = true)
    (hplace : (tree.lookup target).any FileTree.isDirectory = false) :
    copy tree source target = (.ok (), tree.place target (some (.file data))) := by
  rw [copy, contents_eq_ok.mpr hfile]
  exact put_file data hparent hplace

theorem lookup_put_self {new : FileTree κ δ} (h : put tree path new = (.ok (), after)) :
    after.lookup path = some new := by
  unfold put at h
  split at h
  next hparent =>
    split at h
    · cases h
      rw [hasParent, Bool.and_eq_true, decide_eq_true_eq, Option.any_eq_true] at hparent
      obtain ⟨hpath, _, hfound, hdirectory⟩ := hparent
      exact FileTree.lookup_place_self hpath _ hfound hdirectory
    · cases h
  · cases h

theorem copy_eq_ok (h : copy tree source target = (.ok (), after)) :
    ∃ data, tree.lookup source = some (.file data) ∧ after.lookup target = some (.file data) := by
  unfold copy at h
  split at h
  next data hdata => exact ⟨data, contents_eq_ok.mp hdata, lookup_put_self h⟩
  · cases h

theorem lookup_put (h : Incomparable path other) (new : FileTree κ δ) :
    (put tree path new).2.lookup other = tree.lookup other := by
  unfold put
  split
  · split
    · exact FileTree.lookup_place_of_incomparable h _ _
    · rfl
  · rfl

theorem lookup_copy (h : Incomparable target other) :
    (copy tree source target).2.lookup other = tree.lookup other := by
  unfold copy
  split
  · exact lookup_put h _
  · rfl

end Effects

end FileOp

/-- A process on a directory tree. -/
abbrev FileProcess (κ δ α : Type) := Process (@FileOp.Result κ δ) α

namespace FileProcess

variable {κ δ : Type}

def existsSync (path : List κ) : FileProcess κ δ Bool := Process.call (FileOp.existsSync path)

def readFileSync (path : List κ) : FileProcess κ δ δ := Process.call (FileOp.readFileSync path)

def lstatSync (path : List κ) : FileProcess κ δ Bool := Process.call (FileOp.lstatSync path)

def readdirSync (path : List κ) : FileProcess κ δ (List κ) := Process.call (FileOp.readdirSync path)

def mkdirSync (path : List κ) : FileProcess κ δ Unit := Process.call (FileOp.mkdirSync path)

def mkdtempSync (path : List κ) : FileProcess κ δ Unit := Process.call (FileOp.mkdtempSync path)

def renameSync (source target : List κ) : FileProcess κ δ Unit :=
  Process.call (FileOp.renameSync source target)

def copyFileSync (source target : List κ) : FileProcess κ δ Unit :=
  Process.call (FileOp.copyFileSync source target)

def writeFileSync (path : List κ) (data : δ) : FileProcess κ δ Unit :=
  Process.call (FileOp.writeFileSync path data)

def rmSync (path : List κ) : FileProcess κ δ Unit := Process.call (FileOp.rmSync path)

def rmSyncRecursive (path : List κ) : FileProcess κ δ Unit :=
  Process.call (FileOp.rmSyncRecursive path)

end FileProcess

end OpenCowork.Foundation

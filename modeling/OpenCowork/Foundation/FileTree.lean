import Mathlib.Data.List.Nodup
import Mathlib.Data.List.Infix

/-! # File trees

A directory tree with named entries, the files in it by path, and a directory that is
filled file by file. No path of a tree's file runs through another file, which is what
lets the files be created again one after the other in any order.
-/

namespace OpenCowork.Foundation

variable {κ : Type*} {left right : List κ} {name : κ}

/-- What a path names: a file, a symbolic link, something else that is no directory, or a
directory with its entries. -/
inductive FileTree (κ δ : Type*) where
  | file (data : δ)
  | link
  | special
  | directory (entries : List (κ × FileTree κ δ))

namespace FileTree

variable {κ δ : Type*} {entries : List (κ × FileTree κ δ)} {path : List κ} {tree : FileTree κ δ}
  {data : δ} {name : κ}

@[elab_as_elim]
theorem treeInduction {motive : FileTree κ δ → Prop} (tree : FileTree κ δ)
    (file : ∀ data, motive (file data)) (link : motive link) (special : motive special)
    (directory : ∀ entries : List (κ × FileTree κ δ),
      (∀ name child, (name, child) ∈ entries → motive child) → motive (directory entries)) :
    motive tree := by
  apply FileTree.rec (motive_1 := motive) (motive_3 := fun entry => motive entry.2)
    (motive_2 := fun entries => ∀ name child, (name, child) ∈ entries → motive child)
    file link special directory
  · exact fun _ _ hmem => absurd hmem List.not_mem_nil
  · intro entry _ hentry hrest name child hmem
    rcases List.mem_cons.mp hmem with rfl | hmem
    · exact hentry
    · exact hrest name child hmem
  · exact fun _ _ hchild => hchild

mutual

def files : FileTree κ δ → List (List κ × δ)
  | file data => [([], data)]
  | link => []
  | special => []
  | directory entries => filesOfEntries entries

def filesOfEntries : List (κ × FileTree κ δ) → List (List κ × δ)
  | [] => []
  | (name, tree) :: rest =>
    (files tree).map (fun found => (name :: found.1, found.2)) ++ filesOfEntries rest

end

mutual

/-- No directory has two entries of one name. -/
def Distinct : FileTree κ δ → Prop
  | file _ => True
  | link => True
  | special => True
  | directory entries => (entries.map Prod.fst).Nodup ∧ DistinctEntries entries

def DistinctEntries : List (κ × FileTree κ δ) → Prop
  | [] => True
  | (_, tree) :: rest => Distinct tree ∧ DistinctEntries rest

end

theorem mem_filesOfEntries :
    (path, data) ∈ filesOfEntries entries ↔
      ∃ name tree rest, (name, tree) ∈ entries ∧ path = name :: rest ∧
        (rest, data) ∈ files tree := by
  induction entries with
  | nil => simp [filesOfEntries]
  | cons entry _ ih =>
    obtain ⟨name, tree⟩ := entry
    rw [filesOfEntries, List.mem_append, ih]
    constructor
    · rintro (hmem | ⟨other, found, rest, hmem, hpath, hfile⟩)
      · obtain ⟨⟨rest, _⟩, hfile, heq⟩ := List.mem_map.mp hmem
        cases heq
        exact ⟨name, tree, rest, .head _, rfl, hfile⟩
      · exact ⟨other, found, rest, .tail _ hmem, hpath, hfile⟩
    · rintro ⟨other, found, rest, hmem, rfl, hfile⟩
      rcases List.mem_cons.mp hmem with heq | hmem
      · cases heq
        exact .inl (List.mem_map.mpr ⟨_, hfile, rfl⟩)
      · exact .inr ⟨other, found, rest, hmem, rfl, hfile⟩

theorem distinct_of_mem (hentries : DistinctEntries entries) (hmem : (name, tree) ∈ entries) :
    Distinct tree := by
  induction entries with
  | nil => exact absurd hmem List.not_mem_nil
  | cons _ _ ih =>
    rw [DistinctEntries] at hentries
    rcases List.mem_cons.mp hmem with rfl | hmem
    · exact hentries.1
    · exact ih hentries.2 hmem

theorem eq_of_mem_entries (hnames : (entries.map Prod.fst).Nodup) {other : FileTree κ δ}
    (htree : (name, tree) ∈ entries) (hother : (name, other) ∈ entries) : tree = other :=
  congrArg Prod.snd (List.inj_on_of_nodup_map hnames htree hother rfl)

theorem files_incomparable (hdistinct : tree.Distinct)
    {data' : δ} {rest : List κ} (hfile : (path, data) ∈ tree.files)
    (hbelow : (path ++ rest, data') ∈ tree.files) : rest = [] ∧ data = data' := by
  induction path generalizing tree with
  | nil =>
    cases tree with
    | file =>
      simp only [files, List.mem_singleton, Prod.mk.injEq] at hfile hbelow
      rw [hfile.2, hbelow.2]
      exact ⟨by simpa using hbelow.1, rfl⟩
    | link | special => exact absurd hfile List.not_mem_nil
    | directory =>
      obtain ⟨_, _, _, _, hpath, _⟩ := mem_filesOfEntries.mp (by simpa [files] using hfile)
      exact absurd hpath (List.cons_ne_nil _ _).symm
  | cons _ _ ih =>
    cases tree with
    | file => simp [files] at hfile
    | link | special => exact absurd hfile List.not_mem_nil
    | directory =>
      rw [files] at hfile hbelow
      obtain ⟨_, _, _, hmem, hpath, hfound⟩ := mem_filesOfEntries.mp hfile
      obtain ⟨_, _, _, hother, hpath', hfound'⟩ := mem_filesOfEntries.mp hbelow
      cases hpath
      cases hpath'
      rw [Distinct] at hdistinct
      obtain rfl := eq_of_mem_entries hdistinct.1 hmem hother
      exact ih (distinct_of_mem hdistinct.2 hmem) hfound hfound'

end FileTree

/-- A directory that is being filled: the files written so far, each with its path. The
directories above a file are made when it is written. -/
abbrev NewFiles (κ ν : Type*) := List (List κ × ν)

/-- Neither path runs through the other. -/
def Incomparable {κ : Type*} (left right : List κ) : Prop := ¬ left <+: right ∧ ¬ right <+: left

theorem Incomparable.symm (h : Incomparable left right) : Incomparable right left := ⟨h.2, h.1⟩

theorem incomparable_of_ne {other : κ} (h : name ≠ other) (left right : List κ) :
    Incomparable (name :: left) (other :: right) :=
  ⟨fun hbelow => h (List.cons_prefix_cons.mp hbelow).1,
    fun hbelow => h (List.cons_prefix_cons.mp hbelow).1.symm⟩

theorem incomparable_cons :
    Incomparable (name :: left) (name :: right) ↔ Incomparable left right := by
  simp [Incomparable, List.cons_prefix_cons]

namespace NewFiles

variable {κ ν : Type*} [DecidableEq κ]

/-- Creating a file fails where something is at its path, and where a directory above it
would have to be made in place of a file. -/
def create (written : NewFiles κ ν) (path : List κ) (value : ν) : Option (NewFiles κ ν) :=
  if written.any fun found => found.1.isPrefixOf path || path.isPrefixOf found.1 then none
  else some (written ++ [(path, value)])

theorem create_of_incomparable {written : NewFiles κ ν} {path : List κ} (value : ν)
    (hfree : ∀ found ∈ written, Incomparable found.1 path) :
    written.create path value = some (written ++ [(path, value)]) := by
  apply if_neg
  rw [List.any_eq_true]
  rintro ⟨found, hmem, htaken⟩
  rw [Bool.or_eq_true, List.isPrefixOf_iff_prefix, List.isPrefixOf_iff_prefix] at htaken
  obtain ⟨habove, hbelow⟩ := hfree found hmem
  exact htaken.elim habove hbelow

end NewFiles

end OpenCowork.Foundation

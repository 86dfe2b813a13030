import Mathlib.Tactic

/-! # Files and their names

A directory gives names to files. A writer holds the file it opened, not the name: after a
rename it writes to the file under its new name. The names are those of one directory in
which no file has two names.
-/
namespace ResidentialIPManager.Files

abbrev Contents := List UInt8

structure Disk (ν : Type*) where
  entry : ν → Option Nat
  contents : Nat → Contents
  files : Nat
  bound : ∀ name file, entry name = some file → file < files
  distinct : ∀ a b file, entry a = some file → entry b = some file → a = b

namespace Disk

variable {ν : Type*}

def read (d : Disk ν) (name : ν) : Option Contents := (d.entry name).map d.contents

/-- Write at the start of an open file. -/
def write (d : Disk ν) (file : Nat) (data : Contents) : Disk ν :=
  { d with contents := Function.update d.contents file
                         (data ++ (d.contents file).drop data.length) }

variable [DecidableEq ν]

/-- Open a file for writing; it is truncated, or created if the name is free. -/
def create (d : Disk ν) (name : ν) : Disk ν × Nat :=
  match d.entry name with
  | some file => ({ d with contents := Function.update d.contents file [] }, file)
  | none =>
    ({ entry := Function.update d.entry name (some d.files)
       contents := Function.update d.contents d.files []
       files := d.files + 1
       bound := by
         intro a file ha
         by_cases h : a = name
         · subst h
           rw [Function.update_self, Option.some.injEq] at ha
           omega
         · rw [Function.update_of_ne h] at ha
           exact Nat.lt_succ_of_lt (d.bound a file ha)
       distinct := by
         intro a b file ha hb
         by_cases h : a = name <;> by_cases h' : b = name
         · rw [h, h']
         · rw [h, Function.update_self, Option.some.injEq] at ha
           rw [Function.update_of_ne h'] at hb
           have hlt := d.bound b file hb
           omega
         · rw [h', Function.update_self, Option.some.injEq] at hb
           rw [Function.update_of_ne h] at ha
           have hlt := d.bound a file ha
           omega
         · rw [Function.update_of_ne h] at ha
           rw [Function.update_of_ne h'] at hb
           exact d.distinct a b file ha hb }, d.files)

/-- Move a file to another name, replacing what was there. -/
def rename (d : Disk ν) (old new : ν) : Option (Disk ν) :=
  match h : d.entry old with
  | none => none
  | some file =>
    some { d with
      entry := fun name =>
        if name = new then some file else if name = old then none else d.entry name
      bound := by
        intro a i ha
        split_ifs at ha with hnew hold
        · obtain rfl := Option.some.inj ha
          exact d.bound old file h
        · exact d.bound a i ha
      distinct := by
        intro a b i ha hb
        split_ifs at ha hb with hnew hnew' hold' hold hnew' hold'
        · rw [hnew, hnew']
        · obtain rfl := Option.some.inj ha
          exact absurd (d.distinct b old file hb h) hold'
        · obtain rfl := Option.some.inj hb
          exact absurd (d.distinct a old file ha h) hold
        · exact d.distinct a b i ha hb }

def single (name : ν) (data : Contents) : Disk ν where
  entry := Function.update (fun _ => none) name (some 0)
  contents := fun _ => data
  files := 1
  bound := by
    intro a file ha
    by_cases h : a = name
    · subst h
      rw [Function.update_self, Option.some.injEq] at ha
      omega
    · rw [Function.update_of_ne h] at ha
      cases ha
  distinct := by
    intro a b file ha hb
    have hname : ∀ c, Function.update (fun _ => none) name (some 0) c = some file → c = name := by
      intro c hc
      by_contra h
      rw [Function.update_of_ne h] at hc
      cases hc
    rw [hname a ha, hname b hb]

omit [DecidableEq ν] in
def blank : Disk ν := ⟨fun _ => none, fun _ => [], 0, nofun, nofun⟩

variable {d : Disk ν} {name other : ν}

theorem entry_create_self (d : Disk ν) (name : ν) :
    (d.create name).1.entry name = some (d.create name).2 := by
  unfold create
  split
  · next file h => exact h
  · exact Function.update_self _ _ _

theorem contents_create (d : Disk ν) (name : ν) :
    (d.create name).1.contents (d.create name).2 = [] := by
  unfold create
  split <;> exact Function.update_self _ _ _

theorem read_create_of_ne (h : other ≠ name) : (d.create name).1.read other = d.read other := by
  unfold create
  split
  · next file hfile =>
    apply Option.map_congr
    intro i hi
    apply Function.update_of_ne
    rintro rfl
    exact h (d.distinct other name i hi hfile)
  · simp only [read, Function.update_of_ne h]
    apply Option.map_congr
    intro i hi
    apply Function.update_of_ne
    exact (d.bound other i hi).ne

omit [DecidableEq ν] in
theorem read_write_of_ne {file : Nat} (h : d.entry name ≠ some file) (data : Contents) :
    (d.write file data).read name = d.read name := by
  apply Option.map_congr
  intro i hi
  apply Function.update_of_ne
  rintro rfl
  exact h hi

omit [DecidableEq ν] in
theorem contents_write {file : Nat} (h : d.contents file = []) (data : Contents) :
    (d.write file data).contents file = data := by
  simp [write, h]

theorem read_rename {file : Nat} (h : d.entry name = some file) (other : ν) :
    ∃ d', d.rename name other = some d' ∧ d'.read other = some (d.contents file) := by
  unfold rename
  split
  · next hnone =>
    rw [h] at hnone
    cases hnone
  · next i hi =>
    obtain rfl := Option.some.inj (hi.symm.trans h)
    exact ⟨_, rfl, by simp [read]⟩

end Disk

end ResidentialIPManager.Files

import Mathlib.Data.List.Basic
import MarkerLint.Command.Run
import MarkerLint.Proofs.Files.Writing

-- The files of a run do not get in each other's way. What is reported of a file and what is written to it depend
-- only on what it held at first, as long as no two paths lead to one place.

namespace MarkerLint.Command

open Files

-- What is written to a file, and where. Nothing is if there is nothing to put right.
def fixWrite? (linter : Linter) (fix : Bool) (disk : Disk) (p : FilePath) : Option (Location × List Char) :=
  (disk.locate? p).bind fun l => (disk.read? p).bind fun source =>
    let result := (linter.lint source p.text).result
    if (fix = true ∧ result.fixableCount ≠ 0) ∧ disk.isWritable l = true then
      some (l, result.applyFixes source)
    else
      none

-- What is reported of a file that was read, given what was written to it instead.
def FileReport.of (linter : Linter) (p : FilePath) (source : List Char) : Option (Location × List Char) → FileReport
  | none => { source, result := (linter.lint source p.text).result }
  | some (_, text) =>
    { source := text
      result := (linter.lint text p.text).result
      fixed := (linter.lint source p.text).result.fixableCount }

def fileReport? (linter : Linter) (fix : Bool) (disk : Disk) (p : FilePath) : Option FileReport :=
  (disk.read? p).map fun source => .of linter p source (fixWrite? linter fix disk p)

section

variable {linter : Linter} {fix : Bool} {disk disk' : Disk} {p q : FilePath} {source : List Char}

theorem FileReport.result_of (linter : Linter) (p : FilePath) (source : List Char) (w : Option (Location × List Char)) :
    (FileReport.of linter p source w).result =
      (linter.lint (FileReport.of linter p source w).source p.text).result := by
  cases w <;> rfl

theorem result_of_fileReport? {r : FileReport} (h : fileReport? linter fix disk p = some r) :
    r.result = (linter.lint r.source p.text).result := by
  obtain ⟨source, _, rfl⟩ := Option.map_eq_some_iff.mp h
  exact FileReport.result_of linter p source _

theorem fixWrite?_eq_some {w : Location × List Char} :
    fixWrite? linter fix disk p = some w ↔ disk.locate? p = some w.1 ∧ disk.isWritable w.1 = true ∧ fix = true ∧
      ∃ source, disk.read? p = some source ∧ (linter.lint source p.text).result.fixableCount ≠ 0 ∧
        (linter.lint source p.text).result.applyFixes source = w.2 := by
  obtain ⟨l, text⟩ := w
  simp only [fixWrite?, Option.bind_eq_some_iff, Option.ite_none_right_eq_some, Option.some.injEq, Prod.mk.injEq]
  constructor
  case mp =>
    rintro ⟨l, hl, source, hs, ⟨⟨hfix, hcount⟩, hwritable⟩, rfl, htext⟩
    exact ⟨hl, hwritable, hfix, source, hs, hcount, htext⟩
  case mpr =>
    rintro ⟨hl, hwritable, hfix, source, hs, hcount, htext⟩
    exact ⟨l, hl, source, hs, ⟨⟨hfix, hcount⟩, hwritable⟩, rfl, htext⟩

theorem lintFile_eq (linter : Linter) (fix : Bool) (disk : Disk) (p : FilePath) :
    lintFile linter fix disk p =
      (fileReport? linter fix disk p, disk.putAll (fixWrite? linter fix disk p).toList) := by
  unfold lintFile fileReport?
  cases hs : disk.read? p
  case none =>
    have hw : fixWrite? linter fix disk p = none := by simp [fixWrite?, hs]
    rw [hw]
    rfl
  case some source =>
    obtain ⟨l, hl⟩ := Disk.exists_locate_of_read hs
    by_cases hfix : fix = true ∧ (linter.lint source p.text).result.fixableCount ≠ 0
    case pos =>
      by_cases hwritable : disk.isWritable l = true
      case pos => simp [fixWrite?, Disk.write?_eq, hs, hl, hfix, hwritable, FileReport.of, Disk.putAll]
      case neg => simp [fixWrite?, Disk.write?_eq, hs, hl, hfix, hwritable, FileReport.of, Disk.putAll]
    case neg =>
      have hkeep : fix = false ∨ (linter.lint source p.text).result.fixableCount = 0 := by
        cases fix <;> simp_all
      simp [fixWrite?, hs, hl, hfix, hkeep, FileReport.of, Disk.putAll]

-- A file is the same on two disks.
structure SameFile (p : FilePath) (disk disk' : Disk) : Prop where
  locate : disk'.locate? p = disk.locate? p
  writable : disk'.isWritable = disk.isWritable
  read : disk'.read? p = disk.read? p

namespace SameFile

theorem fixWrite?_eq (h : SameFile p disk disk') : fixWrite? linter fix disk' p = fixWrite? linter fix disk p := by
  simp only [fixWrite?, h.locate, h.writable, h.read]

theorem fileReport?_eq (h : SameFile p disk disk') : fileReport? linter fix disk' p = fileReport? linter fix disk p := by
  simp only [fileReport?, h.read, h.fixWrite?_eq]

theorem putAll {ws : List (Location × List Char)} (h : ∀ w ∈ ws, disk.locate? p ≠ some w.1) :
    SameFile p disk (disk.putAll ws) where
  locate := congrFun (disk.locate?_putAll ws) p
  writable := disk.isWritable_putAll ws
  read := Disk.read?_putAll h

end SameFile

theorem locate?_of_fixWrite? {w : Location × List Char} (h : fixWrite? linter fix disk p = some w) :
    disk.locate? p = some w.1 :=
  (fixWrite?_eq_some.mp h).left

-- What is written to a file is not written to one that lies apart.
theorem locate?_ne_of_apart {w : Location × List Char} (h : disk.Apart p q)
    (hw : fixWrite? linter fix disk p = some w) : disk.locate? q ≠ some w.1 :=
  h w.1 (locate?_of_fixWrite? hw)

-- Files that are linted one after the other are linted as they were at first.
theorem lintAll_eq {paths : List FilePath} (h : paths.Pairwise disk.Apart) :
    lintAll linter fix disk paths =
      (paths.filterMap (fileReport? linter fix disk), disk.putAll (paths.filterMap (fixWrite? linter fix disk))) := by
  induction paths generalizing disk
  case nil => rfl
  case cons p paths hi =>
    have ⟨hp, h⟩ := List.pairwise_cons.mp h
    let disk' := disk.putAll (fixWrite? linter fix disk p).toList
    have hsame : ∀ q ∈ paths, SameFile q disk disk' := fun q hq =>
      .putAll fun w hw => locate?_ne_of_apart (hp q hq) (Option.mem_toList.mp hw)
    have hreports : paths.filterMap (fileReport? linter fix disk') = paths.filterMap (fileReport? linter fix disk) :=
      List.filterMap_congr fun q hq => (hsame q hq).fileReport?_eq
    have hwrites : paths.filterMap (fixWrite? linter fix disk') = paths.filterMap (fixWrite? linter fix disk) :=
      List.filterMap_congr fun q hq => (hsame q hq).fixWrite?_eq
    have hapart : disk'.Apart = disk.Apart := disk.apart_putAll _
    have hrest := hi (hapart ▸ h)
    rw [hreports, hwrites] at hrest
    simp only [lintAll, lintFile_eq]
    rw [hrest, ← Disk.putAll_append]
    simp only [List.filterMap_eq_flatMap_toList, List.flatMap_cons]

end

end MarkerLint.Command

import MarkerLint.Proofs.Command.Effects

-- Files linted at the same time. Each file has a job, and the jobs share the disk and the sums. A job reads its
-- file, may write to it, and adds to the sums one by one; a schedule says whose turn it is. Once all jobs are done,
-- everything is as if the files had been linted one after the other.

namespace MarkerLint.Command

open Files Outline

-- What jobs have in common.
structure Shared where
  disk : Disk
  totals : Totals := { errors := 0, warnings := 0, fixed := 0, fixedFiles := 0 }

-- What a job has to do next, with what it knows by then.
inductive Stage where
  | read
  | write (source : List Char) (result : LintResult)
  | addErrors (report : FileReport)
  | addWarnings (report : FileReport)
  | addFixed (report : FileReport)
  | addFixedFile (report : FileReport)
  | done (report : Option FileReport)

structure Job where
  path : FilePath
  stage : Stage := .read

structure Pool where
  jobs : List Job
  shared : Shared

namespace Stage

-- One step of a job. Between two steps of it, others may take theirs.
def next? (linter : Linter) (fix : Bool) (path : FilePath) (shared : Shared) : Stage → Option (Stage × Shared)
  | read =>
    match shared.disk.read? path with
    | none => some (done none, shared)
    | some source =>
      let result := (linter.lint source path.text).result
      if !fix || result.fixableCount = 0 then
        some (addErrors { source, result }, shared)
      else
        some (write source result, shared)
  | write source result =>
    let fixed := result.applyFixes source
    match shared.disk.write? path fixed with
    | none => some (addErrors { source, result }, shared)
    | some disk =>
      let report : FileReport :=
        { source := fixed, result := (linter.lint fixed path.text).result, fixed := result.fixableCount }
      some (addErrors report, { shared with disk })
  | addErrors r =>
    some (addWarnings r, { shared with totals.errors := shared.totals.errors + r.result.errorCount })
  | addWarnings r =>
    let shared := { shared with totals.warnings := shared.totals.warnings + r.result.warningCount }
    if r.fixed > 0 then some (addFixed r, shared) else some (done (some r), shared)
  | addFixed r => some (addFixedFile r, { shared with totals.fixed := shared.totals.fixed + r.fixed })
  | addFixedFile r => some (done (some r), { shared with totals.fixedFiles := shared.totals.fixedFiles + 1 })
  | done _ => none

-- How many steps are left at most.
def rank : Stage → Nat
  | read => 6
  | write .. => 5
  | addErrors _ => 4
  | addWarnings _ => 3
  | addFixed _ => 2
  | addFixedFile _ => 1
  | done _ => 0

def report? : Stage → Option FileReport
  | done r => r
  | _ => none

end Stage

namespace Pool

def start (disk : Disk) (paths : List FilePath) : Pool where
  jobs := paths.map fun path => { path }
  shared := { disk }

-- The job at an index takes a step, if it has one left.
def turn (linter : Linter) (fix : Bool) (pool : Pool) (i : Nat) : Pool :=
  match pool.jobs[i]? with
  | none => pool
  | some job =>
    match job.stage.next? linter fix job.path pool.shared with
    | none => pool
    | some (stage, shared) => { jobs := pool.jobs.set i { job with stage }, shared }

def run (linter : Linter) (fix : Bool) (pool : Pool) (schedule : List Nat) : Pool :=
  schedule.foldl (turn linter fix) pool

def Finished (pool : Pool) : Prop :=
  ∀ job ∈ pool.jobs, job.stage.rank = 0

instance (pool : Pool) : Decidable pool.Finished :=
  inferInstanceAs (Decidable (∀ job ∈ pool.jobs, job.stage.rank = 0))

-- In the order of the files, whichever was done first.
def reports (pool : Pool) : List FileReport :=
  pool.jobs.filterMap (·.stage.report?)

end Pool

namespace Totals

def add (t u : Totals) : Totals where
  errors := t.errors + u.errors
  warnings := t.warnings + u.warnings
  fixed := t.fixed + u.fixed
  fixedFiles := t.fixedFiles + u.fixedFiles

def sum (ts : List Totals) : Totals where
  errors := (ts.map (·.errors)).sum
  warnings := (ts.map (·.warnings)).sum
  fixed := (ts.map (·.fixed)).sum
  fixedFiles := (ts.map (·.fixedFiles)).sum

theorem sum_cons (t : Totals) (ts : List Totals) : sum (t :: ts) = t.add (sum ts) :=
  rfl

theorem sum_nil_add (t : Totals) : (sum []).add t = t := by
  simp [add, sum]

-- If a sum grows by as much as one summand does, it stays the sum.
theorem eq_sum_of_add_eq {left right : List Totals} {c c' t : Totals}
    (h : t.add c = (sum (left ++ c :: right)).add c') : t = sum (left ++ c' :: right) := by
  obtain ⟨errors, warnings, fixed, fixedFiles⟩ := t
  simp only [add, sum, mk.injEq, List.map_append, List.map_cons, List.sum_append, List.sum_cons] at h ⊢
  omega

end Totals

-- What a file adds to the sums.
def FileReport.counts (r : FileReport) : Totals where
  errors := r.result.errorCount
  warnings := r.result.warningCount
  fixed := r.fixed
  fixedFiles := if r.fixed > 0 then 1 else 0

theorem Totals.of_eq_sum (reports : List FileReport) : Totals.of reports = sum (reports.map (·.counts)) := by
  have hfiles : reports.countP (·.fixed > 0) = (reports.map fun r => if r.fixed > 0 then 1 else 0).sum := by
    induction reports
    case nil => rfl
    case cons r reports hi => simp [List.countP_cons, hi, Nat.add_comm]
  rw [Totals.of_eq, hfiles]
  simp [sum, FileReport.counts, Function.comp_def]

namespace Stage

-- The job has still to read its file or to write to it.
def isPending : Stage → Bool
  | read => true
  | write .. => true
  | _ => false

-- What a job has written by now, told from the disk at the start.
def writes (linter : Linter) (fix : Bool) (disk : Disk) (path : FilePath) (stage : Stage) :
    List (Location × List Char) :=
  if stage.isPending then [] else (fixWrite? linter fix disk path).toList

-- What a job has added to the sums by now.
def counted : Stage → Totals
  | read => .sum []
  | write .. => .sum []
  | addErrors _ => .sum []
  | addWarnings r => { r.counts with warnings := 0, fixed := 0, fixedFiles := 0 }
  | addFixed r => { r.counts with fixed := 0, fixedFiles := 0 }
  | addFixedFile r => { r.counts with fixedFiles := 0 }
  | done none => .sum []
  | done (some r) => r.counts

-- What a job knows is what there is to know of its file on the disk at the start.
def Knows (linter : Linter) (fix : Bool) (disk : Disk) (path : FilePath) : Stage → Prop
  | read => True
  | write source result =>
    disk.read? path = some source ∧ result = (linter.lint source path.text).result ∧
      fix = true ∧ result.fixableCount ≠ 0
  | addErrors r => fileReport? linter fix disk path = some r
  | addWarnings r => fileReport? linter fix disk path = some r
  | addFixed r => fileReport? linter fix disk path = some r ∧ r.fixed > 0
  | addFixedFile r => fileReport? linter fix disk path = some r ∧ r.fixed > 0
  | done r => fileReport? linter fix disk path = r

-- What a step does, told from the disk at the start.
structure Effect (linter : Linter) (fix : Bool) (disk : Disk) (path : FilePath) (stage stage' : Stage)
    (shared shared' : Shared) : Prop where
  knows : stage'.Knows linter fix disk path
  writes : ∃ ws, shared'.disk = shared.disk.putAll ws ∧
    stage'.writes linter fix disk path = stage.writes linter fix disk path ++ ws
  totals : shared'.totals.add stage.counted = shared.totals.add stage'.counted

section

variable {linter : Linter} {fix : Bool} {disk : Disk} {path : FilePath} {stage stage' : Stage} {shared shared' : Shared}

theorem locate?_of_mem_writes {w : Location × List Char} (h : w ∈ stage.writes linter fix disk path) :
    disk.locate? path = some w.1 := by
  unfold writes at h
  split at h
  case isTrue => cases h
  case isFalse => exact locate?_of_fixWrite? (Option.mem_toList.mp h)

-- A step that writes nothing, of a job that has nothing to write.
theorem Effect.of_fixWrite?_eq_none (hw : fixWrite? linter fix disk path = none)
    (hknows : stage'.Knows linter fix disk path) (hcounted : stage'.counted = stage.counted) :
    Effect linter fix disk path stage stage' shared shared where
  knows := hknows
  writes := ⟨[], rfl, by simp [Stage.writes, hw]⟩
  totals := by rw [hcounted]

-- A step that adds to a sum.
theorem Effect.of_totals {totals : Totals} (hpending : stage'.isPending = stage.isPending)
    (hknows : stage'.Knows linter fix disk path)
    (htotals : totals.add stage.counted = shared.totals.add stage'.counted) :
    Effect linter fix disk path stage stage' shared { shared with totals } where
  knows := hknows
  writes := ⟨[], rfl, by simp [Stage.writes, hpending]⟩
  totals := htotals

theorem effect_read (hsame : SameFile path disk shared.disk)
    (h : read.next? linter fix path shared = some (stage', shared')) :
    Effect linter fix disk path read stage' shared shared' := by
  simp only [next?, hsame.read] at h
  cases hs : disk.read? path
  case none =>
    simp only [hs, Option.some.injEq, Prod.mk.injEq] at h
    obtain ⟨rfl, rfl⟩ := h
    have hw : fixWrite? linter fix disk path = none := by simp [fixWrite?, hs]
    exact .of_fixWrite?_eq_none hw (by simp [Knows, fileReport?, hs]) rfl
  case some source =>
    by_cases hkeep : (!fix || (linter.lint source path.text).result.fixableCount = 0) = true
    case pos =>
      simp only [hs, hkeep, if_true, Option.some.injEq, Prod.mk.injEq] at h
      obtain ⟨rfl, rfl⟩ := h
      have hw : fixWrite? linter fix disk path = none := by
        rw [Option.eq_none_iff_forall_ne_some]
        intro w hw
        obtain ⟨_, _, hfix, source', hs', hcount, _⟩ := fixWrite?_eq_some.mp hw
        simp_all
      exact .of_fixWrite?_eq_none hw (by simp [Knows, fileReport?, hs, hw, FileReport.of]) rfl
    case neg =>
      simp only [hs, hkeep, Bool.false_eq_true, if_false, Option.some.injEq, Prod.mk.injEq] at h
      obtain ⟨rfl, rfl⟩ := h
      exact .of_totals rfl ⟨hs, rfl, by simp_all⟩ rfl

theorem effect_write {source : List Char} {result : LintResult} (hsame : SameFile path disk shared.disk)
    (hknows : (write source result).Knows linter fix disk path)
    (h : (write source result).next? linter fix path shared = some (stage', shared')) :
    Effect linter fix disk path (write source result) stage' shared shared' := by
  obtain ⟨hs, rfl, hfix, hcount⟩ := hknows
  obtain ⟨l, hl⟩ := Disk.exists_locate_of_read hs
  simp only [next?, Disk.write?_eq, hsame.locate, hsame.writable, hl, Option.bind_some] at h
  by_cases hwritable : disk.isWritable l = true
  case pos =>
    simp only [hwritable, if_true, Option.some.injEq, Prod.mk.injEq] at h
    obtain ⟨rfl, rfl⟩ := h
    let fixed := (linter.lint source path.text).result.applyFixes source
    have hw : fixWrite? linter fix disk path = some (l, fixed) :=
      fixWrite?_eq_some.mpr ⟨hl, hwritable, hfix, source, hs, hcount, rfl⟩
    exact {
      knows := by simp [Knows, fileReport?, hs, hw, FileReport.of, fixed]
      writes := ⟨[(l, fixed)], rfl, by simp [Stage.writes, isPending, hw]⟩
      totals := rfl }
  case neg =>
    simp only [hwritable, Bool.false_eq_true, if_false, Option.some.injEq, Prod.mk.injEq] at h
    obtain ⟨rfl, rfl⟩ := h
    have hw : fixWrite? linter fix disk path = none := by simp [fixWrite?, hs, hl, hwritable]
    exact .of_fixWrite?_eq_none hw (by simp [Knows, fileReport?, hs, hw, FileReport.of]) rfl

-- A step does what it would have done at the start, if the file is as it was then.
theorem effect_next? (hsame : stage.isPending = true → SameFile path disk shared.disk)
    (hknows : stage.Knows linter fix disk path) (h : stage.next? linter fix path shared = some (stage', shared')) :
    Effect linter fix disk path stage stage' shared shared' := by
  cases stage
  case read => exact effect_read (hsame rfl) h
  case write => exact effect_write (hsame rfl) hknows h
  case addErrors r =>
    cases h
    exact .of_totals rfl hknows (by simp [Totals.add, counted, FileReport.counts, Totals.sum])
  case addWarnings r =>
    by_cases hfixed : r.fixed > 0
    case pos =>
      simp only [next?, hfixed, if_true, Option.some.injEq, Prod.mk.injEq] at h
      obtain ⟨rfl, rfl⟩ := h
      exact .of_totals rfl ⟨hknows, hfixed⟩ (by simp [Totals.add, counted, FileReport.counts])
    case neg =>
      replace hfixed : r.fixed = 0 := Nat.eq_zero_of_not_pos hfixed
      simp only [next?, hfixed, Nat.lt_irrefl, gt_iff_lt, if_false, Option.some.injEq, Prod.mk.injEq] at h
      obtain ⟨rfl, rfl⟩ := h
      exact .of_totals rfl hknows (by simp [Totals.add, counted, FileReport.counts, hfixed])
  case addFixed r =>
    cases h
    exact .of_totals rfl hknows (by simp [Totals.add, counted, FileReport.counts])
  case addFixedFile r =>
    obtain ⟨hknows, hfixed⟩ := hknows
    cases h
    exact .of_totals rfl hknows (by simp [Totals.add, counted, FileReport.counts, hfixed])
  case done r => cases h

theorem rank_next? (h : stage.next? linter fix path shared = some (stage', shared')) : stage'.rank < stage.rank := by
  cases stage <;> grind [next?, rank]

theorem rank_eq_zero (h : stage.next? linter fix path shared = none) : stage.rank = 0 := by
  cases stage <;> grind [next?, rank]

end

end Stage

namespace Pool

-- What holds of a pool at any time: its jobs, its disk and its sums tell how far it has come from the start.
structure Consistent (linter : Linter) (fix : Bool) (disk : Disk) (paths : List FilePath) (pool : Pool) : Prop where
  paths : pool.jobs.map (·.path) = paths
  knows : ∀ job ∈ pool.jobs, job.stage.Knows linter fix disk job.path
  disk : pool.shared.disk = disk.putAll (pool.jobs.flatMap fun job => job.stage.writes linter fix disk job.path)
  totals : pool.shared.totals = .sum (pool.jobs.map (·.stage.counted))

section

variable {linter : Linter} {fix : Bool} {disk : Disk} {paths : List FilePath} {pool : Pool}

theorem consistent_start (linter : Linter) (fix : Bool) (disk : Disk) (paths : List FilePath) :
    (start disk paths).Consistent linter fix disk paths where
  paths := by simp [start, Function.comp_def]
  knows := by simp [start, Stage.Knows]
  disk := by
    have hnone : (start disk paths).jobs.flatMap (fun job => job.stage.writes linter fix disk job.path) = [] := by
      simp [start, Stage.writes, Stage.isPending]
    rw [hnone]
    rfl
  totals := by
    simp [start, Stage.counted, Totals.sum, Function.comp_def]

-- A turn passes, or moves one job on.
theorem turn_cases (linter : Linter) (fix : Bool) (pool : Pool) (i : Nat) :
    (turn linter fix pool i = pool ∧
      ∀ job, pool.jobs[i]? = some job → job.stage.next? linter fix job.path pool.shared = none) ∨
    ∃ left right job stage shared, pool.jobs = left ++ job :: right ∧ left.length = i ∧
      job.stage.next? linter fix job.path pool.shared = some (stage, shared) ∧
      turn linter fix pool i = { jobs := left ++ { job with stage } :: right, shared } := by
  unfold turn
  cases hjob : pool.jobs[i]?
  case none => simp
  case some job =>
    cases hnext : job.stage.next? linter fix job.path pool.shared
    case none => simp [hnext]
    case some next =>
      obtain ⟨stage, shared⟩ := next
      obtain ⟨hi, hget⟩ := List.getElem?_eq_some_iff.mp hjob
      have hsplit : ∃ left right, pool.jobs = left ++ pool.jobs[i] :: right ∧ left.length = i ∧
          pool.jobs.set i { job with stage } = left ++ { job with stage } :: right := List.exists_of_set hi
      obtain ⟨left, right, hjobs, hlength, hset⟩ := hsplit
      exact .inr ⟨left, right, job, stage, shared, hget ▸ hjobs, hlength, hnext, by simp only [hnext, hset]⟩

section

variable {left right : List Job} {job : Job}

theorem apart_left (hapart : paths.Pairwise disk.Apart) (h : (left ++ job :: right).map (·.path) = paths) :
    ∀ other ∈ left, disk.Apart other.path job.path := by
  rw [← h, List.pairwise_map] at hapart
  exact fun other hother => (List.pairwise_append.mp hapart).right.right other hother job List.mem_cons_self

theorem apart_right (hapart : paths.Pairwise disk.Apart) (h : (left ++ job :: right).map (·.path) = paths) :
    ∀ other ∈ right, disk.Apart job.path other.path := by
  rw [← h, List.pairwise_map] at hapart
  exact (List.pairwise_cons.mp (List.pairwise_append.mp hapart).right.left).left

-- No other job has touched the file of one that has not.
theorem Consistent.sameFile (hapart : paths.Pairwise disk.Apart) (h : pool.Consistent linter fix disk paths)
    (hjobs : pool.jobs = left ++ job :: right) (hpending : job.stage.isPending = true) :
    SameFile job.path disk pool.shared.disk := by
  have hpaths := hjobs ▸ h.paths
  rw [h.disk]
  apply SameFile.putAll
  intro w hw hl
  obtain ⟨other, hother, hw⟩ := List.mem_flatMap.mp hw
  have hl' := Stage.locate?_of_mem_writes hw
  rw [hjobs, List.mem_append, List.mem_cons] at hother
  rcases hother with hother | rfl | hother
  case inl => exact apart_left hapart hpaths other hother w.1 hl' hl
  case inr.inl => simp [Stage.writes, hpending] at hw
  case inr.inr => exact apart_right hapart hpaths other hother w.1 hl hl'

end

theorem Consistent.turn (hapart : paths.Pairwise disk.Apart) (h : pool.Consistent linter fix disk paths) (i : Nat) :
    (turn linter fix pool i).Consistent linter fix disk paths := by
  rcases turn_cases linter fix pool i with ⟨hturn, _⟩ | ⟨left, right, job, stage, shared, hjobs, _, hnext, hturn⟩
  case inl => rwa [hturn]
  case inr =>
    obtain ⟨hknows, ⟨ws, hput, hwrites⟩, hadd⟩ :=
      Stage.effect_next? (h.sameFile hapart hjobs) (h.knows job (by simp [hjobs])) hnext
    have hpaths := hjobs ▸ h.paths
    have hlate : ∀ w ∈ ws, ∀ v ∈ right.flatMap (fun job => job.stage.writes linter fix disk job.path), w.1 ≠ v.1 := by
      intro w hw v hv heq
      obtain ⟨other, hother, hv⟩ := List.mem_flatMap.mp hv
      have hw' : w ∈ stage.writes linter fix disk job.path := hwrites ▸ List.mem_append_right _ hw
      have hl := Stage.locate?_of_mem_writes hw'
      exact apart_right hapart hpaths other hother w.1 hl (heq ▸ Stage.locate?_of_mem_writes hv)
    rw [hturn]
    exact {
      paths := by simpa using hpaths
      knows := by
        intro other hother
        rw [List.mem_append, List.mem_cons] at hother
        rcases hother with hother | rfl | hother
        case inl => exact h.knows other (by simp [hjobs, hother])
        case inr.inl => exact hknows
        case inr.inr => exact h.knows other (by simp [hjobs, hother])
      disk := by
        rw [hput, h.disk, hjobs]
        simp only [List.flatMap_append, List.flatMap_cons, hwrites]
        rw [← List.append_assoc, Disk.putAll_insert hlate]
        simp only [List.append_assoc]
      totals := by
        rw [h.totals, hjobs, List.map_append, List.map_cons] at hadd
        rw [List.map_append, List.map_cons]
        exact Totals.eq_sum_of_add_eq hadd }

theorem consistent_run (hapart : paths.Pairwise disk.Apart) (schedule : List Nat) :
    (run linter fix (start disk paths) schedule).Consistent linter fix disk paths :=
  List.foldlRecOn schedule (turn linter fix) (consistent_start linter fix disk paths) fun _ h i _ => h.turn hapart i

theorem Consistent.done (h : pool.Consistent linter fix disk paths) (hfinished : pool.Finished) :
    ∀ job ∈ pool.jobs, job.stage = .done (fileReport? linter fix disk job.path) := by
  intro job hjob
  have hknows := h.knows job hjob
  have hrank := hfinished job hjob
  cases hstage : job.stage <;> simp only [hstage, Stage.rank, reduceCtorEq] at hrank
  case done r =>
    rw [hstage] at hknows
    rw [hknows]

theorem sum_counted_done (f : Job → Option FileReport) (jobs : List Job) :
    Totals.sum (jobs.map fun job => (Stage.done (f job)).counted) = .sum ((jobs.filterMap f).map (·.counts)) := by
  induction jobs
  case nil => rfl
  case cons job jobs hi =>
    rw [List.map_cons, Totals.sum_cons, hi]
    cases hr : f job
    case none => rw [List.filterMap_cons_none hr, Stage.counted, Totals.sum_nil_add]
    case some r => rw [List.filterMap_cons_some hr, Stage.counted, List.map_cons, Totals.sum_cons]

-- When no job has anything left to do, all that there is to know is known, written and counted.
theorem Consistent.finish (h : pool.Consistent linter fix disk paths) (hfinished : pool.Finished) :
    pool.reports = paths.filterMap (fileReport? linter fix disk) ∧
      pool.shared.disk = disk.putAll (paths.filterMap (fixWrite? linter fix disk)) ∧
      pool.shared.totals = Totals.of (paths.filterMap (fileReport? linter fix disk)) := by
  have hdone := h.done hfinished
  rw [← h.paths, List.filterMap_map, List.filterMap_map]
  refine ⟨?reports, ?disk, ?totals⟩
  case reports =>
    apply List.filterMap_congr
    intro job hjob
    rw [hdone job hjob]
    rfl
  case disk =>
    rw [h.disk, List.filterMap_eq_flatMap_toList]
    congr 1
    apply List.flatMap_congr
    intro job hjob
    rw [hdone job hjob]
    rfl
  case totals =>
    rw [h.totals, Totals.of_eq_sum, ← sum_counted_done]
    congr 1
    apply List.map_congr_left
    intro job hjob
    rw [hdone job hjob]
    rfl

end

section

variable (linter : Linter) (fix : Bool) (pool : Pool)

-- How many steps the job at an index has left at most.
def rank (pool : Pool) (i : Nat) : Nat :=
  ((pool.jobs[i]?).map (·.stage.rank)).getD 0

theorem rank_turn (i j : Nat) : (turn linter fix pool j).rank i ≤ pool.rank i - if j = i then 1 else 0 := by
  rcases turn_cases linter fix pool j with
    ⟨hturn, hnone⟩ | ⟨left, right, job, stage, shared, hjobs, hlength, hnext, hturn⟩
  case inl =>
    rw [hturn]
    split
    case isTrue hij =>
      have hzero : pool.rank i = 0 := by
        unfold rank
        cases hjob : pool.jobs[i]?
        case none => rfl
        case some job => exact Stage.rank_eq_zero (hnone job (hij ▸ hjob))
      simp [hzero]
    case isFalse => simp
  case inr =>
    have hless := Stage.rank_next? hnext
    rw [hturn]
    unfold rank
    rw [hjobs]
    split
    case isTrue hij =>
      have hown (job : Job) : (left ++ job :: right)[i]? = some job := by simp [← hij, ← hlength]
      simp only [hown, Option.map_some, Option.getD_some]
      omega
    case isFalse hij =>
      have hother : (left ++ { job with stage } :: right)[i]? = (left ++ job :: right)[i]? := by grind
      simp [hother]

theorem rank_run (schedule : List Nat) (i : Nat) :
    (run linter fix pool schedule).rank i ≤ pool.rank i - schedule.count i := by
  induction schedule generalizing pool
  case nil => simp [run]
  case cons j schedule hi =>
    have hturn := rank_turn linter fix pool i j
    have hrun : (run linter fix pool (j :: schedule)).rank i ≤ (turn linter fix pool j).rank i - schedule.count i :=
      hi _
    rw [List.count_cons]
    simp only [beq_iff_eq]
    omega

theorem finished_run {disk : Disk} {paths : List FilePath} {schedule : List Nat}
    (h : ∀ i < paths.length, 6 ≤ schedule.count i) : (run linter fix (start disk paths) schedule).Finished := by
  intro job hjob
  obtain ⟨i, hi⟩ := List.mem_iff_getElem?.mp hjob
  have hstart : (start disk paths).rank i ≤ schedule.count i := by
    by_cases hlt : i < paths.length
    case pos => simpa [rank, start, hlt, Stage.rank] using h i hlt
    case neg => simp [rank, start, hlt]
  have hrun := rank_run linter fix (start disk paths) schedule i
  have hrank : (run linter fix (start disk paths) schedule).rank i = job.stage.rank := by simp [rank, hi]
  omega

end

-- Whichever job takes its turn when, the files, the reports and the sums come out as they do one after the other.
-- Six turns are enough for a job.
theorem run_agrees_with_lintAll (policy : Policy) (fix : Bool) (disk : Disk) (paths : List FilePath)
    (hapart : paths.Pairwise disk.Apart) (schedule : List Nat) :
    let linter := Linter.ofPolicy policy
    let pool := run linter fix (start disk paths) schedule
    let serial := lintAll linter fix disk paths
    (pool.Finished →
      pool.reports = serial.1 ∧ pool.shared.disk = serial.2 ∧ pool.shared.totals = Totals.of serial.1 ∧
      pool.shared.totals.errors = (pool.reports.map fun r => countSeverity .error r.result.diagnostics).sum ∧
      pool.shared.totals.warnings = (pool.reports.map fun r => countSeverity .warning r.result.diagnostics).sum) ∧
    ((∀ i < paths.length, 6 ≤ schedule.count i) → pool.Finished) := by
  intro linter pool serial
  refine ⟨?agrees, finished_run linter fix⟩
  case agrees =>
    intro hfinished
    obtain ⟨hreports, hdisk, htotals⟩ := (consistent_run hapart schedule).finish hfinished
    have hserial : serial = (pool.reports, pool.shared.disk) := by rw [hreports, hdisk]; exact lintAll_eq hapart
    have hcounted : ∀ r ∈ serial.1, r.result.Counted := counted_of_mem_reports hapart
    rw [← hreports] at htotals
    rw [hserial] at hcounted ⊢
    exact ⟨rfl, rfl, htotals, htotals ▸ totals_errors hcounted, htotals ▸ totals_warnings hcounted⟩

end Pool

namespace Sample

def policy : Policy where
  isExcluded := fun _ => false
  marker := "data-component"
  wrappers := []

def paths : List FilePath := [⟨"Card.jsx"⟩, ⟨"Logo.jsx"⟩]

-- The second job is served first, and the jobs take turns.
def schedule : List Nat := [1, 0, 1, 0, 1, 0, 1, 0, 1, 0, 1, 0]

end Sample

theorem Pool.run_agrees_with_lintAll_folder :
    let pool := run (.ofPolicy Sample.policy) true (start Sample.folder Sample.paths) Sample.schedule
    let serial := lintAll (.ofPolicy Sample.policy) true Sample.folder Sample.paths
    Sample.paths.Pairwise Sample.folder.Apart ∧ pool.Finished ∧
      pool.reports = serial.1 ∧ pool.shared.disk = serial.2 ∧ pool.shared.totals.fixed = 1 := by
  intro pool serial
  have hapart : Sample.paths.Pairwise Sample.folder.Apart := by decide +kernel
  obtain ⟨hagrees, hfinishes⟩ :=
    run_agrees_with_lintAll Sample.policy true Sample.folder Sample.paths hapart Sample.schedule
  have hfinished : pool.Finished := hfinishes (by decide)
  obtain ⟨hreports, hdisk, htotals, _⟩ := hagrees hfinished
  have hfixed : (Totals.of serial.1).fixed = 1 := by decide +kernel
  exact ⟨hapart, hfinished, hreports, hdisk, (congrArg Totals.fixed htotals).trans hfixed⟩

end MarkerLint.Command

import Mathlib.Data.List.Basic
import MarkerLint.Files.Collect
import MarkerLint.Proofs.Files.Writing

namespace MarkerLint.Files

namespace Part

theorem le_total (a b : Part) : a.le b ∨ b.le a := by
  cases a <;> cases b <;> simp [le, rank, String.le_total]

theorem le_trans {a b c : Part} (hab : a.le b) (hbc : b.le c) : a.le c := by
  cases a <;> cases b <;> cases c <;> simp_all [le, rank]
  exact String.le_trans hab hbc

theorem le_antisymm {a b : Part} (hab : a.le b) (hba : b.le a) : a = b := by
  cases a <;> cases b <;> simp_all [le, rank]
  exact String.le_antisymm hab hba

end Part

namespace FilePath

theorem leParts_total (as bs : List Part) : leParts as bs ∨ leParts bs as := by
  induction as generalizing bs
  case nil => simp [leParts]
  case cons a as hi =>
    cases bs
    case nil => simp [leParts]
    case cons b bs =>
      by_cases h : a = b
      case pos => simpa [leParts, h] using hi bs
      case neg => simpa [leParts, h, Ne.symm h] using a.le_total b

theorem leParts_antisymm {as bs : List Part} (hab : leParts as bs) (hba : leParts bs as) : as = bs := by
  induction as generalizing bs
  case nil =>
    cases bs
    case nil => rfl
    case cons => simp [leParts] at hba
  case cons a as hi =>
    cases bs
    case nil => simp [leParts] at hab
    case cons b bs =>
      by_cases h : a = b
      case pos =>
        simp only [leParts, h, ↓reduceIte] at hab hba
        rw [h, hi hab hba]
      case neg =>
        simp only [leParts, h, Ne.symm h, ↓reduceIte] at hab hba
        exact absurd (Part.le_antisymm hab hba) h

theorem leParts_trans {as bs cs : List Part} (hab : leParts as bs) (hbc : leParts bs cs) : leParts as cs := by
  induction as generalizing bs cs
  case nil => rfl
  case cons a as hi =>
    cases bs
    case nil => simp [leParts] at hab
    case cons b bs =>
      cases cs
      case nil => simp [leParts] at hbc
      case cons c cs =>
        simp only [leParts] at hab hbc ⊢
        by_cases h : a = b
        case pos =>
          subst h
          by_cases h : a = c
          case pos =>
            simp only [h, ↓reduceIte] at hab hbc ⊢
            exact hi hab hbc
          case neg => simpa [h] using hbc
        case neg =>
          simp only [h, ↓reduceIte] at hab
          by_cases h' : b = c
          case pos => simpa [← h', h] using hab
          case neg =>
            simp only [h', ↓reduceIte] at hbc
            by_cases h'' : a = c
            case pos => exact absurd (Part.le_antisymm hab (h'' ▸ hbc)) h
            case neg => simpa [h''] using Part.le_trans hab hbc

theorem pairwise_le_mergeSort (ps : List FilePath) : (ps.mergeSort le).Pairwise (·.le ·) := by
  refine List.pairwise_mergeSort (fun p q r hpq hqr => ?_) (fun p q => ?_) ps
  · exact leParts_trans hpq hqr
  · exact (Bool.or_eq_true ..).mpr (leParts_total p.parts q.parts)

theorem same_iff {p q : FilePath} : p.same q ↔ p.parts = q.parts :=
  decide_eq_true_iff

end FilePath

section

variable {p q : FilePath} {ps : List FilePath}

theorem mergeAdjacent_sublist (ps : List FilePath) : (mergeAdjacent ps).Sublist ps := by
  fun_induction mergeAdjacent ps
  case case1 => exact .slnil
  case case2 => exact .refl _
  case case3 p q ps _ hi => exact hi.trans (.cons_cons p (.cons q (.refl ps)))
  case case4 p q ps _ hi => exact .cons_cons p hi

theorem mergeAdjacent_of_pairwise (h : ps.Pairwise fun p q => ¬p.same q) : mergeAdjacent ps = ps := by
  fun_induction mergeAdjacent ps
  case case1 | case2 => rfl
  case case3 q _ hsame _ => exact absurd hsame ((List.pairwise_cons.mp h).left q (.head _))
  case case4 hi => rw [hi (List.pairwise_cons.mp h).right]

-- What is left out is the same as what stands before it.
theorem exists_same_mergeAdjacent (ps : List FilePath) : ∀ p ∈ ps, ∃ q ∈ mergeAdjacent ps, q.same p := by
  have hself (p : FilePath) : p.same p := FilePath.same_iff.mpr rfl
  fun_induction mergeAdjacent ps
  case case1 => simp
  case case2 q => exact List.forall_mem_singleton.mpr ⟨q, .head _, hself q⟩
  case case3 q r ps hsame hi =>
    obtain ⟨hq, hps⟩ := List.forall_mem_cons.mp hi
    refine List.forall_mem_cons.mpr ⟨hq, List.forall_mem_cons.mpr ⟨?_, hps⟩⟩
    obtain ⟨s, hs, hq⟩ := hq
    exact ⟨s, hs, FilePath.same_iff.mpr ((FilePath.same_iff.mp hq).trans (FilePath.same_iff.mp hsame))⟩
  case case4 q r ps _ hi =>
    refine List.forall_mem_cons.mpr ⟨⟨q, .head _, hself q⟩, fun p hp => ?_⟩
    obtain ⟨s, hs, hp⟩ := hi p hp
    exact ⟨s, .tail _ hs, hp⟩

-- In an ordered list the same paths stand together.
theorem pairwise_mergeAdjacent (h : ps.Pairwise (·.le ·)) :
    (mergeAdjacent ps).Pairwise fun p q => p.le q ∧ ¬p.same q := by
  fun_induction mergeAdjacent ps
  case case1 => exact .nil
  case case2 => exact List.pairwise_singleton ..
  case case3 p q ps _ hi => exact hi (h.sublist (.cons_cons p (.cons q (.refl ps))))
  case case4 p q ps hsame hi =>
    obtain ⟨hp, hps⟩ := List.pairwise_cons.mp h
    refine List.pairwise_cons.mpr ⟨fun r hr => ?_, hi hps⟩
    have hr := (mergeAdjacent_sublist (q :: ps)).mem hr
    refine ⟨hp r hr, fun heq => hsame ?_⟩
    have hpq : FilePath.leParts p.parts q.parts := hp q (.head _)
    have hqr : FilePath.leParts q.parts r.parts := by
      cases List.mem_cons.mp hr
      case inl hr => exact hr ▸ (FilePath.leParts_total _ _).elim id id
      case inr hr => exact (List.pairwise_cons.mp hps).left r hr
    rw [← FilePath.same_iff.mp heq] at hqr
    exact FilePath.same_iff.mpr (FilePath.leParts_antisymm hpq hqr)

end

-- Where a part leads from a location.
def Part.move (l : Location) : Part → Location
  | root => []
  | current => l
  | parent => l.dropLast
  | name n => l ++ [n]

namespace Disk

variable {disk : Disk} {p q : FilePath} {l l' : Location}

theorem locationOf_eq (start : Location) (p : FilePath) : locationOf start p = p.parts.foldl Part.move start :=
  rfl

-- What a segment does is told by its part.
theorem follow?_eq {segment : List Char} (h : disk.follow? l segment = some l') :
    l' = (FilePath.laterPart? segment).toList.foldl Part.move l := by
  obtain ⟨t, _, h⟩ := Option.bind_eq_some_iff.mp h
  split at h
  case isFalse => contradiction
  case isTrue =>
    split at h
    case h_1 | h_2 => exact (Option.some.inj h).symm
    case h_3 => exact (Option.some.inj h).symm
    case h_4 hne hpoint hpoints =>
      obtain ⟨_, _, rfl⟩ := Option.map_eq_some_iff.mp h
      unfold FilePath.laterPart?
      split
      case h_1 | h_2 | h_3 => contradiction
      case h_4 => rfl

theorem foldlM_follow?_eq {segments : List (List Char)} (h : segments.foldlM disk.follow? l = some l') :
    l' = (segments.filterMap FilePath.laterPart?).foldl Part.move l := by
  induction segments generalizing l
  case nil => simpa using h.symm
  case cons segment segments hi =>
    rw [List.foldlM_cons] at h
    obtain ⟨next, hnext, h⟩ := Option.bind_eq_some_iff.mp h
    rw [hi h, follow?_eq hnext, ← List.foldl_append]
    cases hpart : FilePath.laterPart? segment <;> simp [hpart]

theorem segments_ne_nil (cs : List Char) : segments cs ≠ [] := by
  unfold segments
  split
  case h_1 => simp
  case h_2 =>
    split
    case isTrue => simp
    case isFalse => split <;> simp

theorem segments_of_slash {first : List Char} {later : List (List Char)} (ha : p.isAbsolute)
    (hs : segments p.text.toList = first :: later) : first = [] := by
  obtain ⟨cs, hcs⟩ : ∃ cs, p.text.toList = '/' :: cs := List.head?_eq_some_iff.mp (of_decide_eq_true ha)
  rw [hcs] at hs
  exact (List.cons.inj hs).left.symm

-- A path that leads somewhere leads where its parts lead.
theorem locationOf_of_locate? (h : disk.locate? p = some l) : locationOf disk.workingDirectory p = l := by
  rw [locationOf_eq]
  unfold locate? at h
  unfold FilePath.parts
  split at h
  case isTrue => contradiction
  case isFalse =>
    have hl := foldlM_follow?_eq h
    cases hs : segments p.text.toList
    case nil => exact absurd hs (segments_ne_nil _)
    case cons first later =>
      rw [hl, hs]
      by_cases ha : p.isAbsolute
      case pos =>
        obtain rfl : first = [] := segments_of_slash ha hs
        simp only [ha, ↓reduceIte]
        rfl
      case neg =>
        by_cases hfirst : first = ['.']
        case pos =>
          subst hfirst
          simp only [ha, ↓reduceIte]
          rfl
        case neg => cases hpart : FilePath.laterPart? first <;> simp [ha, hfirst, hpart]

end Disk

namespace FilePath

-- Places to start from, which only come first.
def isAnchor (part : Part) : Bool :=
  part = .root || part = .current

-- Where a path says that it starts: at the root, at the point, or nowhere in particular.
def anchor (p : FilePath) : Option Part :=
  p.parts.head?.filter isAnchor

def Climbs (p : FilePath) : Prop :=
  .parent ∈ p.parts

instance (p : FilePath) : Decidable p.Climbs :=
  inferInstanceAs (Decidable (.parent ∈ p.parts))

theorem not_isAnchor_of_laterPart? {segment : List Char} {part : Part} (h : laterPart? segment = some part) :
    isAnchor part = false := by
  unfold laterPart? at h
  split at h
  case h_1 | h_2 => contradiction
  case h_3 | h_4 =>
    rw [← Option.some.inj h]
    rfl

-- Only the first part of a path can be a place to start from.
theorem parts_cases (p : FilePath) :
    ∃ steps, (∀ part ∈ steps, isAnchor part = false) ∧
      (p.parts = steps ∨ ∃ first, isAnchor first ∧ p.parts = first :: steps) := by
  have hlater (segments : List (List Char)) : ∀ part ∈ segments.filterMap laterPart?, isAnchor part = false := by
    intro part hpart
    obtain ⟨segment, _, hpart⟩ := List.mem_filterMap.mp hpart
    exact not_isAnchor_of_laterPart? hpart
  unfold parts
  split
  case h_1 => exact ⟨[], List.forall_mem_nil _, .inl rfl⟩
  case h_2 first later _ =>
    by_cases ha : p.isAbsolute
    case pos => exact ⟨_, hlater later, .inr ⟨.root, rfl, by simp [ha]⟩⟩
    case neg =>
      by_cases hfirst : first = ['.']
      case pos => exact ⟨_, hlater later, .inr ⟨.current, rfl, by simp [ha, hfirst]⟩⟩
      case neg =>
        refine ⟨_, hlater (first :: later), .inl ?_⟩
        cases hpart : laterPart? first <;> simp [ha, hfirst, hpart]

theorem parts_eq (p : FilePath) :
    ∃ steps, p.parts = p.anchor.toList ++ steps ∧ ∀ part ∈ steps, isAnchor part = false := by
  obtain ⟨steps, hsteps, hp | ⟨first, hfirst, hp⟩⟩ := p.parts_cases
  · refine ⟨steps, ?_, hsteps⟩
    cases steps
    case nil => simp [anchor, hp]
    case cons part steps => simp [anchor, hp, Option.filter, hsteps part (.head _)]
  · refine ⟨steps, ?_, hsteps⟩
    simp [anchor, hp, Option.filter, hfirst]

theorem exists_map_name {steps : List Part} (h : ∀ part ∈ steps, isAnchor part = false) (hp : .parent ∉ steps) :
    ∃ names : List String, steps = names.map .name := by
  induction steps
  case nil => exact ⟨[], rfl⟩
  case cons part steps hi =>
    obtain ⟨hpart, h⟩ := List.forall_mem_cons.mp h
    obtain ⟨hne, hp⟩ := List.ne_and_not_mem_of_not_mem_cons hp
    obtain ⟨names, rfl⟩ := hi h hp
    cases part
    case root | current | parent => contradiction
    case name n => exact ⟨n :: names, rfl⟩

-- Without climbing, the steps of a path are the names of directories to enter.
theorem exists_names {p : FilePath} (h : ¬p.Climbs) :
    ∃ names : List String, p.parts = p.anchor.toList ++ names.map .name := by
  obtain ⟨steps, hp, hsteps⟩ := p.parts_eq
  have hparent : .parent ∉ steps := fun hm => h (by simp [Climbs, hp, hm])
  obtain ⟨names, rfl⟩ := exists_map_name hsteps hparent
  exact ⟨names, hp⟩

end FilePath

theorem foldl_move_names (names : List String) (l : Location) : (names.map .name).foldl Part.move l = l ++ names := by
  induction names generalizing l
  case nil => simp
  case cons n names hi => simp [Part.move, hi]

namespace Disk

variable {disk : Disk} {p q : FilePath}

-- From one place to start from, different names lead to different places.
theorem apart_of_anchor_eq (hsame : ¬p.same q) (ha : p.anchor = q.anchor) (hp : ¬p.Climbs) (hq : ¬q.Climbs) :
    disk.Apart p q := by
  intro l hlp hlq
  obtain ⟨names, hp⟩ := FilePath.exists_names hp
  obtain ⟨names', hq⟩ := FilePath.exists_names hq
  have hl := (locationOf_of_locate? hlp).trans (locationOf_of_locate? hlq).symm
  rw [locationOf_eq, locationOf_eq, hp, hq, ha, List.foldl_append, List.foldl_append, foldl_move_names,
    foldl_move_names] at hl
  have hnames : names = names' := List.append_cancel_left hl
  exact hsame (FilePath.same_iff.mpr (by rw [hp, hq, ha, hnames]))

end Disk

-- Every path that is collected stands for itself in the place of all that are the same part by part, in ascending
-- order. Paths that start alike and do not climb lead to different files.
theorem collect_lists_each_spelling_once (disk : Disk) (patterns : List String) :
    (∀ p ∈ collect disk patterns, ∃ pattern ∈ patterns, p ∈ matchedBy disk pattern) ∧
      (∀ pattern ∈ patterns, ∀ p ∈ matchedBy disk pattern, ∃ q ∈ collect disk patterns, q.same p) ∧
      (collect disk patterns).Pairwise fun p q =>
        p.le q ∧ ¬p.same q ∧ (p.anchor = q.anchor → ¬p.Climbs → ¬q.Climbs → disk.Apart p q) := by
  refine ⟨fun p hp => ?_, fun pattern hpattern p hp => ?_, ?_⟩
  · have hp := List.mem_mergeSort.mp ((mergeAdjacent_sublist _).mem hp)
    exact List.mem_flatMap.mp hp
  · exact exists_same_mergeAdjacent _ p (List.mem_mergeSort.mpr (List.mem_flatMap.mpr ⟨pattern, hpattern, hp⟩))
  · refine (pairwise_mergeAdjacent (FilePath.pairwise_le_mergeSort _)).imp fun h => ?_
    exact ⟨h.left, h.right, Disk.apart_of_anchor_eq h.right⟩

namespace Sample

-- Two components in a directory.
def project : Disk where
  tree := .directory [.mk "src" (.directory [
    .mk "Bar.jsx" (.file (.text [])), .mk "Foo.jsx" (.file (.text []))])]

-- The same directory, spelled in two ways.
def patterns : List String := ["./src", "src"]

def spellings : List FilePath :=
  [⟨"./src/Bar.jsx"⟩, ⟨"./src/Foo.jsx"⟩, ⟨"src/Bar.jsx"⟩, ⟨"src/Foo.jsx"⟩]

theorem flatMap_matchedBy_project : patterns.flatMap (matchedBy project) = spellings := by
  have hglob : ∀ pattern ∈ patterns, Glob.isGlob pattern = false := by
    simp [patterns, Glob.isGlob, String.any, String.contains_bool_eq]
  have hwalk : patterns.flatMap (fun pattern => (walkFrom project ⟨pattern⟩).filter FilePath.isLintable) =
      spellings := by
    decide +kernel
  rw [← hwalk]
  refine List.flatMap_congr fun pattern hpattern => ?_
  simp only [matchedBy, hglob pattern hpattern, Bool.false_eq_true, if_false]

theorem collect_project : collect project patterns = spellings := by
  have hsorted : spellings.mergeSort FilePath.le = spellings := List.mergeSort_of_pairwise (by decide +kernel)
  rw [collect, flatMap_matchedBy_project, hsorted]
  exact mergeAdjacent_of_pairwise (by decide +kernel)

end Sample

-- Files of one directory that are spelled alike are different files.
theorem collect_lists_each_spelling_once_siblings :
    let bar : FilePath := ⟨"./src/Bar.jsx"⟩
    let foo : FilePath := ⟨"./src/Foo.jsx"⟩
    collect Sample.project Sample.patterns = Sample.spellings ∧ bar.anchor = foo.anchor ∧ ¬bar.Climbs ∧ ¬foo.Climbs ∧
      Sample.project.Apart bar foo := by
  intro bar foo
  have hanchor : bar.anchor = foo.anchor := by decide +kernel
  have hbar : ¬bar.Climbs := by decide +kernel
  have hfoo : ¬foo.Climbs := by decide +kernel
  have hpairwise := (collect_lists_each_spelling_once Sample.project Sample.patterns).right.right
  rw [Sample.collect_project] at hpairwise
  have hpair := (List.pairwise_cons.mp hpairwise).left foo (by decide +kernel)
  exact ⟨Sample.collect_project, hanchor, hbar, hfoo, hpair.right.right hanchor hbar hfoo⟩

-- A file is collected twice if the patterns spell its directory in two ways.
theorem collect_repeats_file_spelled_twice :
    ¬(collect Sample.project Sample.patterns).Pairwise Sample.project.Apart := by
  rw [Sample.collect_project]
  decide +kernel

end MarkerLint.Files

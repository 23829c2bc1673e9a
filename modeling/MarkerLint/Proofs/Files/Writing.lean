import MarkerLint.Files.Tree

namespace MarkerLint.Files

def Content.text? : Content → Option (List Char)
  | text cs => some cs
  | binary _ => none

-- Changes what stands under a name.
def Entry.change (n : String) (f : FileTree → FileTree) (e : Entry) : Entry :=
  if e.name = n then .mk n (f e.tree) else e

namespace Entry

variable {e e' : Entry} {n m : String} {f g : FileTree → FileTree}

theorem ext (hn : e.name = e'.name) (ht : e.tree = e'.tree) : e = e' := by
  cases e
  cases e'
  cases hn
  cases ht
  rfl

theorem name_change (n : String) (f : FileTree → FileTree) (e : Entry) : (e.change n f).name = e.name := by
  unfold change
  split
  case isTrue h => exact h.symm
  case isFalse => rfl

theorem tree_change (n : String) (f : FileTree → FileTree) (e : Entry) :
    (e.change n f).tree = if e.name = n then f e.tree else e.tree := by
  unfold change
  split <;> rfl

theorem change_comm (h : n = m → ∀ t, f (g t) = g (f t)) (e : Entry) :
    (e.change n f).change m g = (e.change m g).change n f := by
  apply ext
  case hn => simp only [name_change]
  case ht =>
    simp only [tree_change, name_change]
    by_cases hn : e.name = n
    case pos =>
      by_cases hm : e.name = m
      case pos => simp only [if_pos hn, if_pos hm, h (hn.symm.trans hm)]
      case neg => simp only [if_pos hn, if_neg hm]
    case neg => simp only [if_neg hn]

end Entry

namespace FileTree

-- What a file holds. Of a directory there is nothing to be told but that it is one.
def surface : FileTree → Option Content
  | file c => some c
  | directory _ => none

-- What stands at a location, as far as can be told without going on from there.
def surface? (t : FileTree) (l : Location) : Option (Option Content) :=
  (t.at? l).map surface

section

variable {l l' : Location} {text text' : List Char}

theorem write_cons_file (c : Content) (n : String) (l : Location) (text : List Char) :
    (file c).write (n :: l) text = file c := rfl

theorem write_cons_directory (es : List Entry) (n : String) (l : Location) (text : List Char) :
    (directory es).write (n :: l) text = directory (es.map (Entry.change n (·.write l text))) := rfl

theorem surface?_cons (t : FileTree) (n : String) (l : Location) :
    t.surface? (n :: l) = (t.entry? n).bind (·.surface? l) := by
  rw [surface?, at?]
  exact Option.map_bind

theorem entry?_change (f : FileTree → FileTree) (es : List Entry) (n m : String) :
    entry? (directory (es.map (Entry.change n f))) m =
      if m = n then f <$> entry? (directory es) m else entry? (directory es) m := by
  have hname : (·.name == m) ∘ Entry.change n f = (·.name == m) :=
    funext fun e => congrArg (· == m) (Entry.name_change n f e)
  simp only [entries, entry?, List.find?_map, hname, Option.map_map, Option.map_eq_map]
  cases he : es.find? (·.name == m)
  case none => simp
  case some e =>
    have hm : e.name = m := by simpa using List.find?_some he
    by_cases hn : m = n <;> simp [Entry.tree_change, hm, hn]

-- Only the file at the location has changed, and what is a directory and what is a file stays so.
theorem surface?_write (t : FileTree) (l l' : Location) (text : List Char) :
    (t.write l text).surface? l' =
      if l' = l then (t.surface? l').map (Option.map fun _ => .text text) else t.surface? l' := by
  induction l generalizing t l'
  case nil =>
    cases t
    case file c => cases l' <;> rfl
    case directory es => cases l' <;> rfl
  case cons n l hi =>
    cases t
    case file c => cases l' <;> simp [write_cons_file, surface?_cons, entry?, entries]
    case directory es =>
      cases l'
      case nil => rfl
      case cons m l' =>
        rw [write_cons_directory, surface?_cons, surface?_cons, entry?_change]
        by_cases hm : m = n
        case pos =>
          cases entry? (directory es) m
          case none => simp
          case some s => simp [hm, hi]
        case neg => simp [hm]

theorem write_comm (t : FileTree) (h : l ≠ l') :
    (t.write l text).write l' text' = (t.write l' text').write l text := by
  induction l generalizing t l'
  case nil =>
    cases l'
    case nil => contradiction
    case cons => cases t <;> rfl
  case cons n l hi =>
    cases l'
    case nil => cases t <;> rfl
    case cons m l' =>
      cases t
      case file => rfl
      case directory es =>
        simp only [write_cons_directory, List.map_map, directory.injEq]
        apply List.map_congr_left
        intro e _
        refine Entry.change_comm (fun hm t => (hi t ?_).symm) e
        rintro rfl
        exact h (hm ▸ rfl)

theorem isDirectory_eq (t : FileTree) : t.isDirectory = t.surface.isNone := by
  cases t <;> rfl

theorem map_isDirectory_write (t : FileTree) (l l' : Location) (text : List Char) :
    ((t.write l text).at? l').map isDirectory = (t.at? l').map isDirectory := by
  have hd : isDirectory = Option.isNone ∘ surface := funext isDirectory_eq
  simp only [hd, ← Option.map_map]
  change ((t.write l text).surface? l').map Option.isNone = (t.surface? l').map Option.isNone
  rw [surface?_write]
  split
  case isTrue => simp [Option.map_map, Function.comp_def]
  case isFalse => rfl

theorem read?_eq (t : FileTree) (l : Location) : t.read? l = (t.surface? l).join.bind Content.text? := by
  unfold read? surface?
  rcases t.at? l with _ | (_ | _) | _ <;> rfl

end

end FileTree

namespace Disk

-- The disk with another text in the file at a location.
def put (disk : Disk) (l : Location) (text : List Char) : Disk :=
  { disk with tree := disk.tree.write l text }

-- What the file at a path holds.
def content? (disk : Disk) (p : FilePath) : Option Content :=
  (disk.locate? p).bind fun l => (disk.tree.surface? l).join

-- The paths do not lead to one place.
def Apart (disk : Disk) (p q : FilePath) : Prop :=
  ∀ l, disk.locate? p = some l → disk.locate? q ≠ some l

instance (disk : Disk) (p q : FilePath) : Decidable (disk.Apart p q) :=
  inferInstanceAs (Decidable (∀ l ∈ disk.locate? p, disk.locate? q ≠ some l))

section

variable {disk : Disk} {p q : FilePath} {l l' : Location} {text text' : List Char}

-- Whether a path can be followed depends only on what there is and what of it is a directory.
theorem follow?_congr {disk disk' : Disk}
    (h : ∀ l, (disk.tree.at? l).map FileTree.isDirectory = (disk'.tree.at? l).map FileTree.isDirectory) :
    disk.follow? = disk'.follow? := by
  funext l segment
  have hnext (l next : Location) : (disk.tree.at? l).map (fun _ => next) = (disk'.tree.at? l).map fun _ => next := by
    have := congrArg (Option.map fun _ => next) (h l)
    simpa [Option.map_map, Function.comp_def] using this
  have hl := h l
  unfold follow?
  cases hd : disk.tree.at? l <;> cases hd' : disk'.tree.at? l <;>
    simp only [hd, hd', Option.map_some, Option.map_none, Option.some.injEq, reduceCtorEq] at hl
  case none.none => rfl
  case some.some => simp only [Option.bind_eq_bind, Option.bind_some, hl, hnext]

theorem follow?_put (disk : Disk) (l : Location) (text : List Char) : (disk.put l text).follow? = disk.follow? :=
  follow?_congr fun l' => disk.tree.map_isDirectory_write l l' text

theorem locate?_put (disk : Disk) (l : Location) (text : List Char) : (disk.put l text).locate? = disk.locate? := by
  funext p
  simp only [locate?, follow?_put]
  rfl

theorem read?_eq (disk : Disk) (p : FilePath) : disk.read? p = (disk.content? p).bind Content.text? := by
  unfold read? content?
  cases disk.locate? p
  case none => rfl
  case some l => exact disk.tree.read?_eq l

theorem content?_put (disk : Disk) (l : Location) (text : List Char) (p : FilePath) :
    (disk.put l text).content? p =
      if disk.locate? p = some l then (disk.content? p).map fun _ => .text text else disk.content? p := by
  simp only [content?, locate?_put]
  cases disk.locate? p
  case none => rfl
  case some l' =>
    simp only [Option.bind_some, put, FileTree.surface?_write, Option.some.injEq]
    split
    case isTrue h => rcases disk.tree.surface? l' with _ | _ | _ <;> rfl
    case isFalse => rfl

theorem put_comm (disk : Disk) (h : l ≠ l') : (disk.put l text).put l' text' = (disk.put l' text').put l text := by
  simp only [put, disk.tree.write_comm h]

theorem write?_eq (disk : Disk) (p : FilePath) (text : List Char) :
    disk.write? p text = (disk.locate? p).bind fun l => if disk.isWritable l then some (disk.put l text) else none :=
  rfl

theorem exists_locate_of_read {source : List Char} (h : disk.read? p = some source) : ∃ l, disk.locate? p = some l := by
  obtain ⟨l, hl, _⟩ := Option.bind_eq_some_iff.mp h
  exact ⟨l, hl⟩

theorem Apart.symm (h : disk.Apart p q) : disk.Apart q p :=
  fun l hq hp => h l hp hq

end

-- Writes one after the other.
def putAll (disk : Disk) (writes : List (Location × List Char)) : Disk :=
  writes.foldl (fun disk w => disk.put w.1 w.2) disk

section

variable {disk : Disk} {p : FilePath} {ws vs : List (Location × List Char)} {w : Location × List Char}

theorem putAll_append (disk : Disk) (ws vs : List (Location × List Char)) :
    disk.putAll (ws ++ vs) = (disk.putAll ws).putAll vs :=
  List.foldl_append

theorem locate?_putAll (disk : Disk) (ws : List (Location × List Char)) :
    (disk.putAll ws).locate? = disk.locate? := by
  induction ws generalizing disk
  case nil => rfl
  case cons w ws hi => exact (hi _).trans (disk.locate?_put w.1 w.2)

theorem apart_putAll (disk : Disk) (ws : List (Location × List Char)) : (disk.putAll ws).Apart = disk.Apart := by
  funext p q
  simp only [Apart, locate?_putAll]

theorem isWritable_putAll (disk : Disk) (ws : List (Location × List Char)) :
    (disk.putAll ws).isWritable = disk.isWritable := by
  induction ws generalizing disk
  case nil => rfl
  case cons w ws hi => exact hi _

-- A file to which nothing is written keeps what it holds.
theorem content?_putAll (h : ∀ w ∈ ws, disk.locate? p ≠ some w.1) : (disk.putAll ws).content? p = disk.content? p := by
  induction ws generalizing disk
  case nil => rfl
  case cons w ws hi =>
    have ⟨hw, h⟩ := List.forall_mem_cons.mp h
    have hput : (disk.put w.1 w.2).content? p = disk.content? p := by rw [content?_put, if_neg hw]
    exact (hi (disk.locate?_put w.1 w.2 ▸ h)).trans hput

theorem read?_putAll (h : ∀ w ∈ ws, disk.locate? p ≠ some w.1) : (disk.putAll ws).read? p = disk.read? p := by
  rw [read?_eq, read?_eq, content?_putAll h]

theorem put_putAll (h : ∀ v ∈ vs, w.1 ≠ v.1) : (disk.putAll vs).put w.1 w.2 = (disk.put w.1 w.2).putAll vs := by
  induction vs generalizing disk
  case nil => rfl
  case cons v vs hi =>
    have ⟨hv, h⟩ := List.forall_mem_cons.mp h
    exact (hi h).trans (congrArg (putAll · vs) (disk.put_comm hv).symm)

theorem putAll_comm (h : ∀ w ∈ ws, ∀ v ∈ vs, w.1 ≠ v.1) : (disk.putAll vs).putAll ws = (disk.putAll ws).putAll vs := by
  induction ws generalizing disk
  case nil => rfl
  case cons w ws hi =>
    have ⟨hw, h⟩ := List.forall_mem_cons.mp h
    exact (congrArg (putAll · ws) (put_putAll hw)).trans (hi h)

-- Writes may come late if no others are to the same places.
theorem putAll_insert {us : List (Location × List Char)} (h : ∀ w ∈ ws, ∀ v ∈ vs, w.1 ≠ v.1) :
    (disk.putAll (us ++ vs)).putAll ws = disk.putAll (us ++ (ws ++ vs)) := by
  rw [putAll_append, putAll_comm h, putAll_append, putAll_append]

end

end Disk
end MarkerLint.Files

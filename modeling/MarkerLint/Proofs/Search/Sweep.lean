import MarkerLint.Outline.Search

-- Sweeps: the logs of a queue-driven search. A visitor may answer as it likes, so a sweep says nothing about the
-- answers; it says what comes next after each of them. Whatever holds of every sweep holds of every search.

namespace MarkerLint.Outline

-- The logs that a queue allows, each visit with the answer it got.
inductive Sweep {α : Type} (kids : α → List α) : List α → List (α × Walk) → Prop
  | done : Sweep kids [] []
  | stop {a queue} : Sweep kids (a :: queue) [(a, .stop)]
  | skip {a queue log} : Sweep kids queue log → Sweep kids (a :: queue) ((a, .skip) :: log)
  | descend {a queue log} :
    Sweep kids (queue ++ kids a) log → Sweep kids (a :: queue) ((a, .descend) :: log)

namespace Sweep

variable {α β : Type} {kids : α → List α} {queue : List α} {log : List (α × Walk)} {a b : α}

-- What is visited was in the queue at first or was brought in by a visit before.
theorem parent_before {before after : List (α × Walk)} {w : Walk} (s : Sweep kids queue log)
    (h : log = before ++ (a, w) :: after) :
    a ∈ queue ∨ ∃ b, (b, .descend) ∈ before ∧ a ∈ kids b := by
  induction s generalizing before
  case done => simp at h
  all_goals cases before
  case stop.nil | skip.nil | descend.nil =>
    simp only [List.nil_append, List.cons.injEq, Prod.mk.injEq] at h
    exact .inl <| h.left.left ▸ List.mem_cons_self
  case stop.cons => simp at h
  case skip.cons hi _ before =>
    simp only [List.cons_append, List.cons.injEq] at h
    cases hi h.right
    case inl h => exact .inl <| List.mem_cons_of_mem _ h
    case inr h =>
      have ⟨b, hb, hk⟩ := h
      exact .inr ⟨b, List.mem_cons_of_mem _ hb, hk⟩
  case descend.cons x _ _ _ hi _ before =>
    simp only [List.cons_append, List.cons.injEq] at h
    simp only [List.mem_append] at hi
    obtain (hq | hq) | ⟨b, hb, hk⟩ := hi h.right
    · exact .inl <| List.mem_cons_of_mem _ hq
    · exact .inr ⟨x, h.left ▸ List.mem_cons_self, hq⟩
    · exact .inr ⟨b, List.mem_cons_of_mem _ hb, hk⟩

theorem parent {w : Walk} (s : Sweep kids queue log) (h : (a, w) ∈ log) :
    a ∈ queue ∨ ∃ b, (b, .descend) ∈ log ∧ a ∈ kids b := by
  have ⟨before, after, h⟩ := List.append_of_mem h
  refine (s.parent_before h).imp_right fun ⟨b, hb, hk⟩ => ⟨b, ?_, hk⟩
  exact h ▸ List.mem_append_left _ hb

-- What holds in the queue and passes on to kids holds of all that is visited.
theorem forall_visited (s : Sweep kids queue log) (P : α → Prop) (hk : ∀ a, P a → ∀ k ∈ kids a, P k)
    (hq : ∀ a ∈ queue, P a) : ∀ l ∈ log, P l.1 := by
  induction s
  case done => simp
  case stop => simpa using hq _ List.mem_cons_self
  case skip hi =>
    have ⟨ha, hq⟩ := List.forall_mem_cons.mp hq
    exact List.forall_mem_cons.mpr ⟨ha, hi hq⟩
  case descend a _ _ _ hi =>
    have ⟨ha, hq⟩ := List.forall_mem_cons.mp hq
    exact List.forall_mem_cons.mpr ⟨ha, hi (List.forall_mem_append.mpr ⟨hq, hk a ha⟩)⟩

-- Only the last visit can end a search.
theorem stop_last {before after : List (α × Walk)} (s : Sweep kids queue log)
    (h : log = before ++ (a, .stop) :: after) : after = [] ∧ ∀ b, (b, .stop) ∉ before := by
  induction s generalizing before
  case done => simp at h
  all_goals cases before
  case stop.nil => simp_all
  case stop.cons => simp at h
  case skip.nil | descend.nil => simp at h
  case skip.cons hi _ before | descend.cons hi _ before =>
    simp only [List.cons_append, List.cons.injEq] at h
    have ⟨he, hn⟩ := hi h.right
    exact ⟨he, by simpa [← h.left] using hn⟩

-- A sweep over the images of a queue comes from a sweep over the queue itself.
theorem lift {kids' : β → List β} {f : α → β} {log : List (β × Walk)}
    (h : ∀ a, kids' (f a) = (kids a).map f) (s : Sweep kids' (queue.map f) log) :
    ∃ log' : List (α × Walk), Sweep kids queue log' ∧ log'.map (Prod.map f id) = log := by
  generalize hq : queue.map f = queue' at s
  induction s generalizing queue
  case done => exact ⟨[], List.map_eq_nil_iff.mp hq ▸ .done, rfl⟩
  all_goals
    obtain ⟨a, queue, rfl, rfl, rfl⟩ := List.map_eq_cons_iff.mp hq
  case stop => exact ⟨[(a, .stop)], .stop, rfl⟩
  case skip hi =>
    have ⟨log', hs, hl⟩ := hi rfl
    exact ⟨(a, .skip) :: log', .skip hs, by simp [hl]⟩
  case descend hi =>
    have ⟨log', hs, hl⟩ := @hi (queue ++ kids a) (by simp [h])
    exact ⟨(a, .descend) :: log', .descend hs, by simp [hl]⟩

-- If more is below an item than below its kids together, no more is visited than is below the queue.
theorem length_le {below : α → List β} (h : ∀ a, ((kids a).flatMap below).length < (below a).length)
    (s : Sweep kids queue log) : log.length ≤ (queue.flatMap below).length := by
  induction s
  case done => simp
  case stop a _ =>
    have := h a
    simp only [List.length_cons, List.length_nil, List.flatMap_cons, List.length_append]
    omega
  case skip a _ _ _ hi =>
    have := h a
    simp only [List.length_cons, List.flatMap_cons, List.length_append]
    omega
  case descend a _ _ _ hi =>
    have := h a
    simp only [List.flatMap_append, List.flatMap_cons, List.length_append, List.length_cons] at hi ⊢
    omega

end Sweep

-- An order in which a queue can be kept: kids come after their parent and are in order, and the kids
-- of what comes first come first.
structure Layered {α : Type} (kids : α → List α) (Before : α → α → Prop) : Prop where
  irrefl : ∀ a, ¬Before a a
  trans {a b c} : Before a b → Before b c → Before a c
  down {a k} : k ∈ kids a → Before a k
  across {a b k l} : Before a b → k ∈ kids a → l ∈ kids b → Before k l
  sorted : ∀ a, (kids a).Pairwise Before

-- A queue that holds the rest of one layer and the start of the next.
structure Frontier {α : Type} (kids : α → List α) (Before : α → α → Prop) (queue : List α) : Prop where
  sorted : queue.Pairwise Before
  band : ∀ a ∈ queue, ∀ b ∈ queue, ∀ k ∈ kids a, Before b k

namespace Frontier

variable {α : Type} {kids : α → List α} {Before : α → α → Prop} {queue : List α} {a : α}

theorem single (l : Layered kids Before) (a : α) : Frontier kids Before [a] where
  sorted := List.pairwise_singleton ..
  band := by
    simp only [List.mem_singleton, forall_eq]
    exact fun _ => l.down

theorem tail (f : Frontier kids Before (a :: queue)) : Frontier kids Before queue where
  sorted := f.sorted.of_cons
  band b hb c hc := f.band b (List.mem_cons_of_mem _ hb) c (List.mem_cons_of_mem _ hc)

theorem descend (l : Layered kids Before) (f : Frontier kids Before (a :: queue)) :
    Frontier kids Before (queue ++ kids a) where
  sorted := by
    refine List.pairwise_append.mpr ⟨f.sorted.of_cons, l.sorted a, fun b hb k hk => ?_⟩
    exact f.band a List.mem_cons_self b (List.mem_cons_of_mem _ hb) k hk
  band := by
    have hq : ∀ b ∈ queue, ∀ k ∈ kids a, Before b k :=
      fun b hb => f.band a List.mem_cons_self b (List.mem_cons_of_mem _ hb)
    intro b hb c hc k hk
    cases List.mem_append.mp hb <;> cases List.mem_append.mp hc
    case inl.inl hb hc => exact f.tail.band b hb c hc k hk
    case inl.inr hb hc => exact l.across (List.rel_of_pairwise_cons f.sorted hb) hc hk
    case inr.inl hb hc => exact l.trans (hq c hc b hb) (l.down hk)
    case inr.inr hb hc => exact l.across (l.down hb) hc hk

end Frontier

namespace Sweep

variable {α : Type} {kids : α → List α} {Before : α → α → Prop} {queue : List α}
variable {log : List (α × Walk)} {a b : α} {w : Walk}

theorem after (l : Layered kids Before) (s : Sweep kids queue log) (hq : ∀ b ∈ queue, Before a b)
    (h : (b, w) ∈ log) : Before a b := by
  induction s
  case done => contradiction
  case stop =>
    simp only [List.mem_singleton, Prod.mk.injEq] at h
    exact h.left ▸ hq _ List.mem_cons_self
  all_goals
    have ⟨hx, hq⟩ := List.forall_mem_cons.mp hq
    cases List.mem_cons.mp h
  case skip.inl h | descend.inl h => exact (Prod.mk.inj h).left ▸ hx
  case skip.inr hi _ h => exact hi hq h
  case descend.inr hi _ h =>
    refine hi (fun k hk => ?_) h
    cases List.mem_append.mp hk
    case inl hk => exact hq k hk
    case inr hk => exact l.trans hx (l.down hk)

theorem sorted (l : Layered kids Before) (f : Frontier kids Before queue) (s : Sweep kids queue log) :
    (log.map Prod.fst).Pairwise Before := by
  induction s
  case done => exact .nil
  case stop => exact List.pairwise_singleton ..
  all_goals
    simp only [List.map_cons, List.pairwise_cons, List.mem_map, Prod.exists, exists_and_right, exists_eq_right,
      forall_exists_index]
  case skip s hi =>
    exact ⟨fun b w h => s.after l (fun c hc => List.rel_of_pairwise_cons f.sorted hc) h, hi f.tail⟩
  case descend s hi =>
    refine ⟨fun b w h => s.after l (fun c hc => ?_) h, hi (f.descend l)⟩
    cases List.mem_append.mp hc
    case inl hc => exact List.rel_of_pairwise_cons f.sorted hc
    case inr hc => exact l.down hc

-- Nothing comes after a visit that ends the search.
theorem not_after_stop (l : Layered kids Before) (f : Frontier kids Before queue) (s : Sweep kids queue log)
    (ha : (a, .stop) ∈ log) (hb : (b, w) ∈ log) : ¬Before a b := by
  intro h
  have hs := s.sorted l f
  have ⟨before, after, he⟩ := List.append_of_mem ha
  rw [(s.stop_last he).left] at he
  rw [he, List.map_append, List.pairwise_append] at hs
  rw [he, List.mem_append] at hb
  cases hb
  case inl hb =>
    have := hs.right.right b (List.mem_map.mpr ⟨_, hb, rfl⟩) a (by simp)
    exact l.irrefl _ (l.trans h this)
  case inr hb =>
    simp only [List.mem_singleton, Prod.mk.injEq] at hb
    exact l.irrefl _ (hb.left ▸ h)

-- All that is met is visited in time, unless the search ends before.
theorem complete (l : Layered kids Before) (f : Frontier kids Before queue) (s : Sweep kids queue log)
    (h : a ∈ queue ∨ ∃ b, (b, .descend) ∈ log ∧ a ∈ kids b) :
    (∃ w, (a, w) ∈ log) ∨ ∃ b, (b, .stop) ∈ log ∧ Before b a := by
  induction s
  case done => simp at h
  case stop x queue =>
    simp only [List.mem_cons, Prod.mk.injEq, reduceCtorEq, and_false, List.not_mem_nil, or_self, false_and,
      exists_false, or_false] at h
    cases h
    case inl h => exact .inl ⟨.stop, h ▸ List.mem_cons_self⟩
    case inr h => exact .inr ⟨x, List.mem_cons_self, List.rel_of_pairwise_cons f.sorted h⟩
  all_goals
    simp only [List.mem_cons, Prod.mk.injEq, reduceCtorEq, and_false, false_or] at h ⊢
  case skip x queue log s hi =>
    obtain (rfl | h) | h := h
    · exact .inl ⟨.skip, .inl ⟨rfl, rfl⟩⟩
    · exact (hi f.tail (.inl h)).imp_left fun ⟨w, h⟩ => ⟨w, .inr h⟩
    · exact (hi f.tail (.inr h)).imp_left fun ⟨w, h⟩ => ⟨w, .inr h⟩
  case descend x queue log s hi =>
    obtain (rfl | h) | ⟨b, ⟨rfl, -⟩ | hb, hk⟩ := h
    · exact .inl ⟨.descend, .inl ⟨rfl, rfl⟩⟩
    all_goals refine (hi (f.descend l) ?_).imp_left fun ⟨w, h⟩ => ⟨w, .inr h⟩
    · exact .inl <| List.mem_append_left _ h
    · exact .inl <| List.mem_append_right _ hk
    · exact .inr ⟨b, hb, hk⟩

end Sweep
end MarkerLint.Outline

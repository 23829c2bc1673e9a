-- Texts are lists of characters, and a place in a text is the number of bytes before it in UTF-8.

namespace MarkerLint.Text

def bytes : List Char → Nat
  | [] => 0
  | c :: cs => c.utf8Size + bytes cs

-- Cuts a text at a byte offset. There is no cut past the end or inside a character.
def splitAt? : Nat → List Char → Option (List Char × List Char)
  | 0, cs => some ([], cs)
  | _ + 1, [] => none
  | n + 1, c :: cs =>
    if c.utf8Size ≤ n + 1 then
      (splitAt? (n + 1 - c.utf8Size) cs).map fun (before, after) => (c :: before, after)
    else
      none

def IsBoundary (text : List Char) (offset : Nat) : Prop :=
  (splitAt? offset text).isSome

instance (text : List Char) (offset : Nat) : Decidable (IsBoundary text offset) :=
  inferInstanceAs (Decidable (_ = true))

@[simp]
theorem bytes_nil : bytes [] = 0 := rfl

@[simp]
theorem bytes_cons (c : Char) (cs : List Char) : bytes (c :: cs) = c.utf8Size + bytes cs := rfl

@[simp]
theorem bytes_append (as bs : List Char) : bytes (as ++ bs) = bytes as + bytes bs := by
  induction as with
  | nil => simp
  | cons a as ih => simp [ih, Nat.add_assoc]

-- The two halves of a cut make up the text, and the first one is as long as asked for.
theorem splitAt?_eq_some {n : Nat} {text before after : List Char}
    (h : splitAt? n text = some (before, after)) : text = before ++ after ∧ bytes before = n := by
  induction text generalizing n before with
  | nil => cases n <;> simp_all [splitAt?]
  | cons c cs ih =>
    cases n with
    | zero => simp_all [splitAt?]
    | succ n =>
      simp only [splitAt?] at h
      split at h
      · obtain ⟨⟨b, a⟩, hs, hp⟩ := Option.map_eq_some_iff.mp h
        simp only [Prod.mk.injEq] at hp
        obtain ⟨rfl, rfl⟩ := hp
        have ⟨h₁, h₂⟩ := ih hs
        simp only [bytes_cons, h₁, h₂, List.cons_append, true_and]
        omega
      · contradiction

end MarkerLint.Text

/-!
# Splitting at a separator

`splitAt sep` cuts a text at every occurrence of one character; `joinWith sep` puts the parts back.
Splitting gives at least one part, and joining undoes it (`joinWith_splitAt`); splitting undoes
joining, too, when no part holds the separator (`splitAt_intercalate`).
-/

namespace Stencil.Text

/-- The parts of a text between the occurrences of a separator: one more than there are of it. -/
def splitAt (sep : Char) : List Char → List (List Char)
  | [] => [[]]
  | c :: cs =>
    if c = sep then [] :: splitAt sep cs
    else match splitAt sep cs with
      | [] => [[c]]
      | part :: parts => (c :: part) :: parts

/-- The parts with the separator between each two. -/
def joinWith (sep : Char) : List (List Char) → List Char
  | [] => []
  | [part] => part
  | part :: parts => part ++ sep :: joinWith sep parts

theorem splitAt_ne_nil (sep : Char) (cs : List Char) : splitAt sep cs ≠ [] := by
  cases cs with
  | nil => simp [splitAt]
  | cons c cs =>
    unfold splitAt
    split
    · simp
    · split <;> simp

/-- Joining the parts gives the text back. -/
theorem joinWith_splitAt (sep : Char) (cs : List Char) : joinWith sep (splitAt sep cs) = cs := by
  induction cs with
  | nil => rfl
  | cons c cs ih =>
    unfold splitAt
    split
    · rename_i h
      subst h
      cases hs : splitAt c cs with
      | nil => exact absurd hs (splitAt_ne_nil c cs)
      | cons p ps => rw [hs] at ih; simp [joinWith, ih]
    · cases hs : splitAt sep cs with
      | nil => exact absurd hs (splitAt_ne_nil sep cs)
      | cons p ps =>
        rw [hs] at ih
        cases ps with
        | nil => simpa [joinWith] using ih
        | cons q qs => simp only [joinWith, List.cons_append] at ih ⊢; rw [ih]

/-- Joining puts the separator in front of all parts but the first. -/
theorem joinWith_eq_flatMap (sep : Char) (part : List Char) (parts : List (List Char)) :
    joinWith sep (part :: parts) = part ++ parts.flatMap (sep :: ·) := by
  induction parts generalizing part with
  | nil => simp [joinWith]
  | cons next parts ih =>
    rw [joinWith, ih, List.flatMap_cons, List.cons_append]
    nofun

theorem intercalate_eq_flatMap (sep : Char) (part : List Char) (parts : List (List Char)) :
    [sep].intercalate (part :: parts) = part ++ parts.flatMap (sep :: ·) := by
  induction parts generalizing part with
  | nil => simp
  | cons next parts ih =>
    rw [List.intercalate_cons_cons, ih, List.flatMap_cons, List.append_assoc]
    rfl

/-- A text without the separator is its own only part. -/
theorem splitAt_of_not_mem {sep : Char} {cs : List Char} (h : sep ∉ cs) :
    splitAt sep cs = [cs] := by
  induction cs with
  | nil => rfl
  | cons c cs ih =>
    unfold splitAt
    rw [if_neg (List.ne_of_not_mem_cons h).symm, ih (List.not_mem_of_not_mem_cons h)]

/-- A text without the separator, and the separator behind it, are the first part. -/
theorem splitAt_append {sep : Char} {first : List Char} (rest : List Char) (h : sep ∉ first) :
    splitAt sep (first ++ sep :: rest) = first :: splitAt sep rest := by
  induction first with
  | nil => rw [List.nil_append, splitAt, if_pos rfl]
  | cons c cs ih =>
    rw [List.cons_append, splitAt, if_neg (List.ne_of_not_mem_cons h).symm,
      ih (List.not_mem_of_not_mem_cons h)]

/-- Splitting undoes joining, when no part holds the separator. -/
theorem splitAt_intercalate {sep : Char} {part : List Char} {parts : List (List Char)}
    (free : ∀ p ∈ part :: parts, sep ∉ p) :
    splitAt sep ([sep].intercalate (part :: parts)) = part :: parts := by
  induction parts generalizing part with
  | nil =>
    rw [List.intercalate_singleton]
    exact splitAt_of_not_mem (free part List.mem_cons_self)
  | cons next parts ih =>
    obtain ⟨first, rest⟩ := List.forall_mem_cons.mp free
    rw [List.intercalate_cons_cons, List.append_assoc, List.singleton_append,
      splitAt_append _ first, ih rest]

end Stencil.Text

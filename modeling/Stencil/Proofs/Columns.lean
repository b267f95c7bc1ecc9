import Stencil.Text.Width
import Mathlib.Tactic.SplitIfs

/-!
# Columns of neighbouring texts

A text is read from its end, and a character may take a column back from what stands to its right.

* `owed_columnsFrom`: no character takes back more than has been given, so the columns of a text are
  never below zero;
* `columnsFrom_append`: a text that does not combine with what stands to its left adds its columns;
* `columns_append_room`, `columns_room_append`: spaces add one column each, on either side.
-/

namespace Stencil.Text

/-! ## 1. Never below zero -/

/-- The columns that a left neighbour may take back from what it combines with. -/
def RightKind.owed : RightKind → Int
  | khmerLetter | tifinaghJoiner | joinedFlagLetter | joinedOddFlagLetters => 1
  | _ => 0

theorem RightKind.owed_nonneg (k : RightKind) : 0 ≤ k.owed := by
  unfold owed
  split <;> decide

theorem RightKind.owed_join (k : RightKind) : k.join.owed = k.owed := by
  cases k <;> rfl

/-- No letter that may go below another is without a column. -/
theorem coeng_apart_zeroWidth : ∀ r ∈ coengRanges, 0xA0 < r.1 ∧ r.2 < 0x17D8 ∧
    ∀ z ∈ zeroWidthRanges, r.2 < z.1 ∨ z.2 < r.1 := by
  decide +kernel

theorem charColumns_pos_of_coeng {c : Char} (h : coengRanges.contains c = true) :
    1 ≤ charColumns c := by
  obtain ⟨r, hr, low, high⟩ := Ranges.contains_iff.mp h
  obtain ⟨-, small, apart⟩ := coeng_apart_zeroWidth r hr
  have visible : zeroWidthRanges.contains c = false := by
    rw [Bool.eq_false_iff]
    intro hidden
    obtain ⟨z, hz, low', high'⟩ := Ranges.contains_iff.mp hidden
    have := apart z hz
    omega
  unfold charColumns
  rw [visible, if_neg (show ¬ c.toNat = 0x17D8 by omega)]
  split_ifs <;> simp_all

theorem owed_ite {p : Prop} [Decidable p] {a b : Right} {n : Int} (yes : p → a.kind.owed ≤ n)
    (no : ¬ p → b.kind.owed ≤ n) : (if p then a else b).kind.owed ≤ n := by
  split
  · exact yes ‹_›
  · exact no ‹_›

/-- A character on its own gives what may be taken back from it. -/
theorem owed_kindOf (c : Char) : (kindOf c).kind.owed ≤ charColumns c := by
  have none : (0 : Int) ≤ charColumns c := Int.natCast_nonneg _
  unfold kindOf
  refine owed_ite (fun _ => none) fun _ => owed_ite (fun _ => none) fun _ =>
    owed_ite (fun _ => none) fun _ => owed_ite (fun letter => ?_) fun _ => ?_
  · exact Int.ofNat_le.mpr (charColumns_pos_of_coeng letter)
  · -- only the letters that go below owe anything
    repeat refine owed_ite (fun _ => none) fun _ => ?_
    exact none

/-- What combines takes back no more than is owed, and gives what it owes itself. -/
theorem owed_combine? {c : Char} {k k' : RightKind} {n : Int} (h : combine? c k = some (n, k')) :
    k'.owed ≤ k.owed + n := by
  unfold combine? at h
  split at h
  case h_23 => cases h
  all_goals
    split_ifs at h
    all_goals
      cases h
      simp [RightKind.owed]

namespace Right

theorem owed_addEmojiSelector (r : Right) : r.addEmojiSelector.kind.owed ≤ r.kind.owed := by
  unfold addEmojiSelector
  exact owed_ite (fun _ => Int.le_refl _) fun _ => r.kind.owed_nonneg

theorem owed_dropEmojiSelector (r : Right) : r.dropEmojiSelector.kind.owed ≤ r.kind.owed := by
  unfold dropEmojiSelector
  exact owed_ite (fun _ => Int.le_refl _) fun _ => r.kind.owed_nonneg

theorem owed_addTextSelector (r : Right) : r.addTextSelector.kind.owed ≤ r.kind.owed := by
  unfold addTextSelector
  exact owed_ite (fun _ => Int.le_refl _) fun _ => r.kind.owed_nonneg

theorem owed_dropTextSelector (r : Right) : r.dropTextSelector.kind.owed ≤ r.kind.owed := by
  unfold dropTextSelector
  exact owed_ite (fun _ => Int.le_refl _) fun _ => r.kind.owed_nonneg

end Right

/-- What a character owes is covered by what was given so far and what it gives itself. -/
def Covered (given : Int) (x : Int × Right) : Prop := x.2.kind.owed ≤ given + x.1

theorem covered_ite {p : Prop} [Decidable p] {given : Int} {x y : Int × Right}
    (yes : p → Covered given x) (no : ¬ p → Covered given y) :
    Covered given (if p then x else y) := by
  split
  · exact yes ‹_›
  · exact no ‹_›

theorem covered_keep {given : Int} {r : Right} (h : r.kind.owed ≤ given) : Covered given (0, r) := by
  rw [Covered, Int.add_zero]
  exact h

theorem covered_alone {given : Int} (nonneg : 0 ≤ given) (c : Char) : Covered given (alone c) := by
  have own := owed_kindOf c
  show (kindOf c).kind.owed ≤ given + charColumns c
  omega

theorem covered_columnsBeforeSome {given : Int} {r : Right} (h : r.kind.owed ≤ given) (c : Char) :
    Covered given (columnsBeforeSome c r) := by
  have nonneg : 0 ≤ given := Int.le_trans r.kind.owed_nonneg h
  have dropped : (if r.textSelector then r.dropTextSelector else r).kind.owed ≤ given :=
    owed_ite (fun _ => Int.le_trans r.owed_dropTextSelector h) fun _ => h
  unfold columnsBeforeSome
  dsimp only
  generalize (if r.textSelector then r.dropTextSelector else r) = bare at dropped ⊢
  refine covered_ite (fun _ => covered_alone nonneg c) fun _ =>
    covered_ite (fun _ => covered_keep (Int.le_trans r.owed_addEmojiSelector h)) fun _ =>
    covered_ite (fun _ => covered_keep (Int.le_trans r.owed_addTextSelector h)) fun _ =>
    covered_ite (fun _ => Int.add_nonneg nonneg (by decide)) fun _ =>
    covered_ite (fun _ => covered_keep ?_) fun _ =>
    covered_ite (fun _ => covered_keep dropped) fun _ => ?_
  · rw [RightKind.owed_join]
    exact dropped
  · split
    · rename_i n k combined
      have := owed_combine? combined
      show k.owed ≤ given + n
      omega
    · exact covered_alone nonneg c

theorem covered_columnsBefore {given : Int} {r : Right} (h : r.kind.owed ≤ given) (c : Char) :
    Covered given (columnsBefore c r) := by
  have nonneg : 0 ≤ given := Int.le_trans r.kind.owed_nonneg h
  have dropped : (if r.emojiSelector then r.dropEmojiSelector else r).kind.owed ≤ given :=
    owed_ite (fun _ => Int.le_trans r.owed_dropEmojiSelector h) fun _ => h
  have one : ∀ r' : Right, r'.kind.owed = 0 → Covered given (1, r') := by
    intro r' owes
    show r'.kind.owed ≤ given + 1
    omega
  unfold columnsBefore
  dsimp only
  generalize (if r.emojiSelector then r.dropEmojiSelector else r) = bare at dropped ⊢
  refine covered_ite (fun _ => ?_) fun _ => covered_ite (fun _ => ?_) fun _ =>
    covered_columnsBeforeSome dropped c
  · show (0 : Int) ≤ given + if r.kind.isJoinedEmoji then 0 else 2
    split <;> omega
  · exact covered_ite (fun _ => one _ rfl) fun _ =>
      covered_ite (fun _ => covered_keep nonneg) fun _ => one _ rfl

/-- **No text takes back more columns than it has.** -/
theorem owed_columnsFrom (cs : List Char) : (columnsFrom cs).2.kind.owed ≤ (columnsFrom cs).1 := by
  induction cs with
  | nil => decide
  | cons c cs ih => exact covered_columnsBefore ih c

theorem columnsFrom_nonneg (cs : List Char) : 0 ≤ (columnsFrom cs).1 :=
  Int.le_trans (RightKind.owed_nonneg _) (owed_columnsFrom cs)

/-! ## 2. Side by side -/

theorem columnsFrom_cons (c : Char) (cs : List Char) : columnsFrom (c :: cs) =
    ((columnsFrom cs).1 + (columnsBefore c (columnsFrom cs).2).1,
      (columnsBefore c (columnsFrom cs).2).2) := rfl

/-- **In front of a text that combines with nothing, the columns add up.** -/
theorem columnsFrom_append (cs : List Char) {behind : List Char}
    (apart : (columnsFrom behind).2 = .none) : columnsFrom (cs ++ behind) =
      ((columnsFrom cs).1 + (columnsFrom behind).1, (columnsFrom cs).2) := by
  induction cs with
  | nil => exact Prod.ext (Int.zero_add _).symm apart
  | cons c cs ih =>
    rw [List.cons_append, columnsFrom_cons, ih, columnsFrom_cons, Int.add_right_comm]

/-- A space takes one column whatever stands to its right, and combines with nothing. -/
theorem columnsBefore_space (r : Right) : columnsBefore ' ' r = (1, .none) := by
  have plain : emojiSequenceRanges.contains ' ' = false := by decide +kernel
  rw [columnsBefore, plain, Bool.and_false, if_neg Bool.false_ne_true]
  rfl

/-- A printable character of ASCII takes one column at the end of a text, and combines with nothing
to its left. -/
theorem columnsBefore_printable {c : Char} (printable : between 0x20 0x7E c = true) :
    columnsBefore c .none = (1, .none) := by
  simp only [between, Bool.and_eq_true, decide_eq_true_eq] at printable
  have small : c.toNat ≤ 0xA0 := by omega
  have noBreak : c ≠ '\n' := by
    rintro rfl
    exact absurd printable.1 (by decide)
  have noReturn : c ≠ '\r' := by
    rintro rfl
    exact absurd printable.1 (by decide)
  simp [columnsBefore, Right.none, RightKind.bare, small, noBreak, noReturn]

/-- Printable ASCII takes one column a character. -/
theorem columnsFrom_printable {cs : List Char} (printable : ∀ c ∈ cs, between 0x20 0x7E c = true) :
    columnsFrom cs = ((cs.length : Int), .none) := by
  induction cs with
  | nil => rfl
  | cons c cs ih =>
    obtain ⟨first, rest⟩ := List.forall_mem_cons.mp printable
    rw [columnsFrom_cons, ih rest, columnsBefore_printable first]
    rfl

/-- Spaces. -/
def room (n : Nat) : List Char := List.replicate n ' '

theorem columns_append_room (cs : List Char) (n : Nat) : columns (cs ++ room n) = columns cs + n := by
  have spaces : columnsFrom (room n) = ((n : Int), .none) := by
    have all : ∀ c ∈ room n, between 0x20 0x7E c = true := by
      intro c hc
      rw [List.eq_of_mem_replicate hc]
      decide
    rw [columnsFrom_printable all, room, List.length_replicate]
  have nonneg := columnsFrom_nonneg cs
  rw [columns, columnsFrom_append cs (by rw [spaces]), spaces, columns]
  omega

theorem columns_room_append (n : Nat) (cs : List Char) : columns (room n ++ cs) = n + columns cs := by
  have given : (columnsFrom (room n ++ cs)).1 = n + (columnsFrom cs).1 := by
    induction n with
    | zero => exact (Int.zero_add _).symm
    | succ n ih =>
      have more : room (n + 1) ++ cs = ' ' :: (room n ++ cs) := rfl
      rw [more, columnsFrom_cons, ih, columnsBefore_space]
      omega
  have nonneg := columnsFrom_nonneg cs
  rw [columns, given, columns]
  omega

end Stencil.Text

import Stencil.Proofs.Columns
import Stencil.Value.Format
import Mathlib.Algebra.GroupWithZero.Nat

/-!
# Display width

A value is padded with as many spaces as the display width of its text leaves to the width that is
asked for. Spaces in front of a text always add to its display width. Spaces behind it do unless the
text leaves a control string open: they are then part of the control string and are not shown.

* `stretches_shown`, `stretches_behind`: the stretches of a text, character by character and control
  sequence by control sequence, and `text_induction`, the induction along them;
* `LeftOpen`: a text that leaves a control string open;
* `displayWidth_room_append`, `displayWidth_append_room`, `LeftOpen.displayWidth_append_room`: what
  spaces add to a display width;
* `width_is_least`: so a format gives a value the width it asks for, unless the text stands on the
  left and leaves a control string open; then the width is the one the text has.
-/

namespace Stencil.Text

/-! ## 1. Control sequences come to an end -/

theorem length_skipCommand (cs : List Char) : (skipCommand cs).length ≤ cs.length := by
  induction cs with
  | nil => exact Nat.le_refl 0
  | cons c cs ih =>
    have tail : cs.tail.length = cs.length - 1 := List.length_tail
    rw [List.length_cons, skipCommand]
    split_ifs <;> omega

theorem length_skipDeviceString (cs : List Char) : (skipDeviceString cs).length ≤ cs.length := by
  fun_induction skipDeviceString cs <;> grind

theorem AnsiState.length_run {s : AnsiState} {best : Option (List Char)} {cs rest : List Char}
    (h : s.run best cs = some rest) : best = some rest ∨ rest.length < cs.length := by
  induction cs generalizing s best with
  | nil => exact Or.inl h
  | cons c cs ih =>
    unfold AnsiState.run at h
    cases step : s.next? c with
    | none =>
      rw [step] at h
      exact Or.inl h
    | some s' =>
      rw [step] at h
      rcases ih h with better | shorter
      · split at better
        · cases better
          exact Or.inr (Nat.lt_succ_self _)
        · exact Or.inl better
      · exact Or.inr (Nat.lt_succ_of_lt shorter)

/-- What follows a control sequence is shorter than the text. -/
theorem length_afterSequence? {cs rest : List Char} (h : afterSequence? cs = some rest) :
    rest.length < cs.length := by
  cases cs with
  | nil => cases h
  | cons c cs =>
    have tail : cs.tail.length = cs.length - 1 := List.length_tail
    have command := length_skipCommand cs.tail
    have device := length_skipDeviceString cs.tail
    unfold afterSequence? at h
    dsimp only at h
    rw [List.length_cons]
    split_ifs at h
    · cases h
      omega
    · cases h
      omega
    · rcases AnsiState.length_run h with first | shorter
      · cases first
      · omega

/-! ## 2. Stretches -/

theorem stretchesFrom_cons (fuel : Nat) (stretch : List Char) (c : Char) (cs : List Char) :
    stretchesFrom (fuel + 1) stretch (c :: cs) = match afterSequence? (c :: cs) with
      | some rest => stretch.reverse :: stretchesFrom fuel [] rest
      | none => stretchesFrom fuel (c :: stretch) cs := rfl

/-- What is collected stands in front of the first stretch. -/
theorem stretchesFrom_stretch (fuel : Nat) (stretch cs : List Char) :
    stretchesFrom fuel stretch cs =
      (stretchesFrom fuel [] cs).modifyHead (stretch.reverse ++ ·) := by
  induction fuel generalizing stretch cs with
  | zero => rfl
  | succ fuel ih =>
    cases cs with
    | nil => simp [stretchesFrom]
    | cons c cs =>
      rw [stretchesFrom_cons, stretchesFrom_cons]
      cases afterSequence? (c :: cs) with
      | some rest => simp
      | none =>
        dsimp only
        rw [ih (c :: stretch), ih [c], List.modifyHead_modifyHead]
        simp [Function.comp_def]

/-- Fuel beyond the length of the text changes nothing. -/
theorem stretchesFrom_of_le {fuel fuel' : Nat} {cs : List Char} (enough : cs.length ≤ fuel)
    (enough' : cs.length ≤ fuel') : stretchesFrom fuel [] cs = stretchesFrom fuel' [] cs := by
  induction fuel generalizing fuel' cs with
  | zero =>
    obtain rfl := List.length_eq_zero_iff.mp (Nat.le_zero.mp enough)
    cases fuel' <;> rfl
  | succ fuel ih =>
    cases cs with
    | nil => cases fuel' <;> rfl
    | cons c cs =>
      obtain ⟨fuel', rfl⟩ : ∃ n, fuel' = n + 1 := ⟨fuel' - 1, by rw [List.length_cons] at enough'; omega⟩
      rw [stretchesFrom_cons, stretchesFrom_cons]
      rw [List.length_cons] at enough enough'
      cases h : afterSequence? (c :: cs) with
      | some rest =>
        have shorter := length_afterSequence? h
        rw [List.length_cons] at shorter
        exact congrArg _ (ih (by omega) (by omega))
      | none =>
        dsimp only
        rw [stretchesFrom_stretch fuel, stretchesFrom_stretch fuel',
          ih (Nat.le_of_succ_le_succ enough) (Nat.le_of_succ_le_succ enough')]

theorem stretches_nil : stretches [] = [[]] := rfl

/-- A character that begins no control sequence is the first of its stretch. -/
theorem stretches_shown {c : Char} {cs : List Char} (h : afterSequence? (c :: cs) = none) :
    stretches (c :: cs) = (stretches cs).modifyHead (c :: ·) := by
  rw [stretches, List.length_cons, stretchesFrom_cons, h, stretches]
  exact stretchesFrom_stretch cs.length [c] cs

/-- A control sequence ends a stretch, and the next one begins behind it. -/
theorem stretches_behind {cs rest : List Char} (h : afterSequence? cs = some rest) :
    stretches cs = [] :: stretches rest := by
  cases cs with
  | nil => cases h
  | cons c cs =>
    have shorter := length_afterSequence? h
    rw [List.length_cons] at shorter
    rw [stretches, List.length_cons, stretchesFrom_cons, h, stretches]
    exact congrArg _ (stretchesFrom_of_le (by omega) (Nat.le_refl _))

/-- **What holds of the empty text, and goes on to hold in front of it with one more character that is
shown and with one more control sequence, holds of every text.** -/
@[elab_as_elim]
theorem text_induction {P : List Char → Prop} (empty : P [])
    (shown : ∀ c cs, afterSequence? (c :: cs) = none → P cs → P (c :: cs))
    (behind : ∀ cs rest, afterSequence? cs = some rest → P rest → P cs) (cs : List Char) : P cs := by
  induction h : cs.length using Nat.strongRecOn generalizing cs with
  | _ n ih =>
    subst h
    cases cs with
    | nil => exact empty
    | cons c cs =>
      cases after : afterSequence? (c :: cs) with
      | none => exact shown c cs after (ih _ (Nat.lt_succ_self _) cs rfl)
      | some rest => exact behind _ rest after (ih _ (length_afterSequence? after) rest rfl)

/-! ## 3. Control strings that are left open -/

/-- A command comes to its end: it holds a bell, a terminator or an escaped backslash. -/
def commandEnds : List Char → Bool
  | [] => false
  | c :: cs => c.toNat = 7 || c = terminator || (c = escape && cs.head? = some '\\') || commandEnds cs

/-- A device-control string comes to its end: it holds a terminator or an escaped backslash, and no
other escape has taken that one with it. -/
def deviceStringEnds : List Char → Bool
  | [] => false
  | c :: cs =>
    if c = terminator then true
    else if c = escape then
      match cs with
      | [] => false
      | d :: ds => d = '\\' || deviceStringEnds ds
    else deviceStringEnds cs

/-- The text is a control string that does not come to its end. -/
inductive OpenString : List Char → Prop where
  | command {cs : List Char} (unended : commandEnds cs = false) : OpenString (escape :: ']' :: cs)
  | deviceString {cs : List Char} (unended : deviceStringEnds cs = false) :
      OpenString (escape :: 'P' :: cs)

/-- **The text leaves a control string open**: behind what is shown of it and the control sequences in
it there is a control string that does not come to its end. -/
inductive LeftOpen : List Char → Prop where
  | here {cs : List Char} (unended : OpenString cs) : LeftOpen cs
  | shown {c : Char} {cs : List Char} (plain : afterSequence? (c :: cs) = none)
      (later : LeftOpen cs) : LeftOpen (c :: cs)
  | behind {cs rest : List Char} (sequence : afterSequence? cs = some rest)
      (later : LeftOpen rest) : LeftOpen cs

theorem not_leftOpen_nil : ¬ LeftOpen [] := by
  intro h
  cases h with
  | here unended => cases unended
  | behind sequence => cases sequence

/-- Spaces behind a text put no character in front of them but a space. -/
theorem head?_append_room {d : Char} (other : d ≠ ' ') (cs : List Char) (n : Nat) :
    (cs ++ room n).head? = some d ↔ cs.head? = some d := by
  cases cs with
  | cons c cs => rfl
  | nil =>
    cases n with
    | zero => rfl
    | succ n => simp [room, List.replicate_succ, other.symm]

theorem skipCommand_room (n : Nat) : skipCommand (room n) = [] := by
  induction n with
  | zero => rfl
  | succ n ih =>
    have more : room (n + 1) = ' ' :: room n := rfl
    have plain : ' ' ≠ escape := by decide
    rw [more, skipCommand, if_neg (by decide), if_neg fun h => plain h.1]
    exact ih

/-- A command that does not come to its end takes the spaces behind it with it. -/
theorem skipCommand_append_room (cs : List Char) (n : Nat) : skipCommand (cs ++ room n) =
    if commandEnds cs then skipCommand cs ++ room n else [] := by
  induction cs with
  | nil => exact skipCommand_room n
  | cons c cs ih =>
    have escaped := head?_append_room (show '\\' ≠ ' ' by decide) cs n
    rw [List.cons_append, skipCommand, skipCommand, commandEnds, ih]
    simp only [escaped]
    by_cases ends : c.toNat = 7 ∨ c = terminator
    · rw [if_pos ends, if_pos ends]
      simp [ends]
    rw [if_neg ends, if_neg ends]
    by_cases backslash : c = escape ∧ cs.head? = some '\\'
    · obtain ⟨ds, rfl⟩ := List.head?_eq_some_iff.mp backslash.2
      simp [backslash]
    · rw [if_neg backslash, if_neg backslash]
      grind

theorem skipDeviceString_cons (c : Char) (cs : List Char) : skipDeviceString (c :: cs) =
    if c = terminator then cs
    else if c = escape then
      match cs with
      | [] => []
      | d :: ds => if d = '\\' then ds else skipDeviceString ds
    else skipDeviceString cs := skipDeviceString.eq_def _

theorem deviceStringEnds_cons (c : Char) (cs : List Char) : deviceStringEnds (c :: cs) =
    if c = terminator then true
    else if c = escape then
      match cs with
      | [] => false
      | d :: ds => d = '\\' || deviceStringEnds ds
    else deviceStringEnds cs := deviceStringEnds.eq_def _

theorem skipDeviceString_room (n : Nat) : skipDeviceString (room n) = [] := by
  induction n with
  | zero => rfl
  | succ n ih =>
    have more : room (n + 1) = ' ' :: room n := rfl
    rw [more, skipDeviceString_cons, if_neg (by decide), if_neg (by decide)]
    exact ih

/-- A device-control string that does not come to its end takes the spaces behind it with it. -/
theorem skipDeviceString_append_room (cs : List Char) (n : Nat) : skipDeviceString (cs ++ room n) =
    if deviceStringEnds cs then skipDeviceString cs ++ room n else [] := by
  fun_induction skipDeviceString cs with
  | case1 => exact skipDeviceString_room n
  | case3 plain =>
    -- the last escape takes a space with it
    rw [List.cons_append, skipDeviceString_cons, if_neg plain, if_pos rfl]
    cases n with
    | zero => rfl
    | succ n => exact skipDeviceString_room n
  | case2 | case4 | case5 | case6 =>
    rw [List.cons_append, skipDeviceString_cons, deviceStringEnds_cons]
    simp [*]

theorem AnsiState.next?_space (s : AnsiState) : s.next? ' ' = none := by
  cases s <;> rfl

/-- Spaces end a control sequence, and are no part of it. -/
theorem AnsiState.run_append_room (s : AnsiState) (best : Option (List Char)) (cs : List Char)
    (n : Nat) : s.run (best.map (· ++ room n)) (cs ++ room n) = (s.run best cs).map (· ++ room n) := by
  induction cs generalizing s best with
  | nil =>
    cases n with
    | zero => rfl
    | succ n =>
      have more : [] ++ room (n + 1) = ' ' :: room n := rfl
      rw [more, run.eq_2, next?_space]
      rfl
  | cons c cs ih =>
    rw [List.cons_append, run, run]
    cases s.next? c with
    | none => rfl
    | some s' =>
      dsimp only
      rw [← ih]
      split <;> rfl

theorem afterSequence?_cons (c : Char) (cs : List Char) : afterSequence? (c :: cs) =
    if c = escape ∧ cs.head? = some ']' then some (skipCommand cs.tail)
    else if c = escape ∧ cs.head? = some 'P' then some (skipDeviceString cs.tail)
    else if c = escape ∨ c = introducer then AnsiState.run .start none cs
    else none := rfl

/-- **Nothing of what stands behind an open control string is shown.** -/
theorem OpenString.swallows {cs : List Char} (h : OpenString cs) (n : Nat) :
    afterSequence? (cs ++ room n) = some [] := by
  cases h with
  | @command cs unended =>
    have skipped := skipCommand_append_room cs n
    rw [unended] at skipped
    exact congrArg some skipped
  | @deviceString cs unended =>
    have skipped := skipDeviceString_append_room cs n
    rw [unended] at skipped
    exact congrArg some skipped

/-- An open control string is a control sequence with nothing behind it. -/
theorem OpenString.nothing_behind {cs : List Char} (h : OpenString cs) :
    afterSequence? cs = some [] := by
  have alone := h.swallows 0
  rwa [show room 0 = [] from rfl, List.append_nil] at alone

/-- A character that is shown in front of a text leaves no more open than the text does. -/
theorem leftOpen_cons_iff {c : Char} {cs : List Char} (plain : afterSequence? (c :: cs) = none) :
    LeftOpen (c :: cs) ↔ LeftOpen cs := by
  refine ⟨fun h => ?_, .shown plain⟩
  cases h with
  | here unended =>
    rw [unended.nothing_behind] at plain
    cases plain
  | shown _ later => exact later
  | behind sequence =>
    rw [plain] at sequence
    cases sequence

/-- A control sequence in front of a text leaves no more open than the text does, when it is no open
control string. -/
theorem leftOpen_behind_iff {cs rest : List Char} (sequence : afterSequence? cs = some rest)
    (ended : ¬ OpenString cs) : LeftOpen cs ↔ LeftOpen rest := by
  refine ⟨fun h => ?_, .behind sequence⟩
  cases h with
  | here unended => exact absurd unended ended
  | shown plain =>
    rw [plain] at sequence
    cases sequence
  | behind sequence' later =>
    rw [sequence] at sequence'
    cases sequence'
    exact later

/-- **Spaces behind a control sequence are no part of it**, when it is no open control string. -/
theorem afterSequence?_append_room {cs : List Char} (nonempty : cs ≠ []) (ended : ¬ OpenString cs)
    (n : Nat) : afterSequence? (cs ++ room n) = (afterSequence? cs).map (· ++ room n) := by
  obtain ⟨c, cs, rfl⟩ := List.exists_cons_of_ne_nil nonempty
  rw [List.cons_append, afterSequence?_cons, afterSequence?_cons]
  simp only [head?_append_room (show ']' ≠ ' ' by decide),
    head?_append_room (show 'P' ≠ ' ' by decide)]
  split_ifs with command device sequence
  · obtain ⟨rfl, front⟩ := command
    obtain ⟨cs, rfl⟩ := List.head?_eq_some_iff.mp front
    have ends : commandEnds cs = true := by
      rw [← Bool.not_eq_false]
      exact fun unended => ended (.command unended)
    have skipped := skipCommand_append_room cs n
    rw [ends] at skipped
    exact congrArg some skipped
  · obtain ⟨rfl, front⟩ := device
    obtain ⟨cs, rfl⟩ := List.head?_eq_some_iff.mp front
    have ends : deviceStringEnds cs = true := by
      rw [← Bool.not_eq_false]
      exact fun unended => ended (.deviceString unended)
    have skipped := skipDeviceString_append_room cs n
    rw [ends] at skipped
    exact congrArg some skipped
  · exact AnsiState.run_append_room .start none cs n
  · rfl

/-! ## 4. What spaces add -/

/-- Where no character begins a control sequence, the first stretch goes on. -/
theorem stretches_append_of_plain {front : List Char}
    (plain : ∀ c ∈ front, c ≠ escape ∧ c ≠ introducer) (cs : List Char) :
    stretches (front ++ cs) = (stretches cs).modifyHead (front ++ ·) := by
  induction front with
  | nil => cases h : stretches cs <;> simp [h]
  | cons c front ih =>
    obtain ⟨⟨notEscape, notIntroducer⟩, rest⟩ := List.forall_mem_cons.mp plain
    have shown : afterSequence? (c :: (front ++ cs)) = none := by
      rw [afterSequence?_cons]
      simp [notEscape, notIntroducer]
    rw [List.cons_append, stretches_shown shown, ih rest, List.modifyHead_modifyHead]
    rfl

theorem stretches_of_plain {cs : List Char} (plain : ∀ c ∈ cs, c ≠ escape ∧ c ≠ introducer) :
    stretches cs = [cs] := by
  have all := stretches_append_of_plain plain []
  rwa [List.append_nil, stretches_nil, List.modifyHead_cons, List.append_nil] at all

/-- No space begins a control sequence. -/
theorem plain_room (n : Nat) : ∀ c ∈ room n, c ≠ escape ∧ c ≠ introducer := by
  intro c hc
  rw [List.eq_of_mem_replicate hc]
  decide

/-- **The display width of a text is the sum of the columns of its stretches**, also where it is plain
ASCII. -/
theorem displayWidth_eq (cs : List Char) : displayWidth cs = ((stretches cs).map columns).sum := by
  unfold displayWidth
  split
  · rename_i printable
    rw [List.all_eq_true] at printable
    have plain : ∀ c ∈ cs, c ≠ escape ∧ c ≠ introducer := by
      intro c hc
      constructor
      · rintro rfl
        exact absurd (printable _ hc) (by decide)
      · rintro rfl
        exact absurd (printable _ hc) (by decide)
    rw [stretches_of_plain plain, List.map_singleton, List.sum_singleton, columns,
      columnsFrom_printable printable]
    rfl
  · rw [List.sum_eq_foldl, List.foldl_map]

theorem stretches_ne_nil (cs : List Char) : stretches cs ≠ [] := by
  induction cs using text_induction with
  | empty => exact List.cons_ne_nil _ _
  | shown c cs plain ih =>
    obtain ⟨first, others, h⟩ := List.exists_cons_of_ne_nil ih
    rw [stretches_shown plain, h]
    exact List.cons_ne_nil _ _
  | behind cs rest sequence _ =>
    rw [stretches_behind sequence]
    exact List.cons_ne_nil _ _

/-- **Spaces in front of a text add to its display width.** -/
theorem displayWidth_room_append (n : Nat) (cs : List Char) :
    displayWidth (room n ++ cs) = n + displayWidth cs := by
  obtain ⟨first, others, h⟩ := List.exists_cons_of_ne_nil (stretches_ne_nil cs)
  rw [displayWidth_eq, displayWidth_eq, stretches_append_of_plain (plain_room n), h,
    List.modifyHead_cons, List.map_cons, List.sum_cons, columns_room_append, List.map_cons,
    List.sum_cons, Nat.add_assoc]

theorem stretches_shown_append_room {c : Char} {cs : List Char}
    (shown : afterSequence? (c :: cs) = none) (n : Nat) :
    stretches (c :: cs ++ room n) = (stretches (cs ++ room n)).modifyHead (c :: ·) := by
  have ended : ¬ OpenString (c :: cs) := by
    intro unended
    rw [unended.nothing_behind] at shown
    cases shown
  have further := afterSequence?_append_room (List.cons_ne_nil c cs) ended n
  rw [shown] at further
  exact stretches_shown further

theorem stretches_behind_append_room {cs rest : List Char} (sequence : afterSequence? cs = some rest)
    (ended : ¬ OpenString cs) (n : Nat) :
    stretches (cs ++ room n) = [] :: stretches (rest ++ room n) := by
  have nonempty : cs ≠ [] := by
    rintro rfl
    cases sequence
  have further := afterSequence?_append_room nonempty ended n
  rw [sequence] at further
  exact stretches_behind further

/-- Spaces behind a text that leaves a control string open are in no stretch. -/
theorem LeftOpen.stretches_append_room {cs : List Char} (h : LeftOpen cs) (n : Nat) :
    stretches (cs ++ room n) = stretches cs := by
  induction h with
  | here unended =>
    rw [stretches_behind (unended.swallows n), stretches_behind unended.nothing_behind]
  | shown plain _ ih => rw [stretches_shown_append_room plain, stretches_shown plain, ih]
  | @behind cs rest sequence later ih =>
    have ended : ¬ OpenString cs := by
      intro unended
      rw [unended.nothing_behind] at sequence
      cases sequence
      exact not_leftOpen_nil later
    rw [stretches_behind_append_room sequence ended, stretches_behind sequence, ih]

/-- Spaces behind a text that leaves no control string open are at the end of its last stretch. -/
theorem stretches_append_room {cs : List Char} (closed : ¬ LeftOpen cs) (n : Nat) :
    ∃ others last, stretches cs = others ++ [last] ∧
      stretches (cs ++ room n) = others ++ [last ++ room n] := by
  induction cs using text_induction with
  | empty => exact ⟨[], [], rfl, stretches_of_plain (plain_room n)⟩
  | shown c cs plain ih =>
    obtain ⟨others, last, same, more⟩ := ih fun later => closed (.shown plain later)
    rw [stretches_shown plain, stretches_shown_append_room plain, same, more]
    cases others with
    | nil => exact ⟨[], c :: last, rfl, rfl⟩
    | cons first others => exact ⟨(c :: first) :: others, last, rfl, rfl⟩
  | behind cs rest sequence ih =>
    obtain ⟨others, last, same, more⟩ := ih fun later => closed (.behind sequence later)
    rw [stretches_behind sequence,
      stretches_behind_append_room sequence fun unended => closed (.here unended), same, more]
    exact ⟨[] :: others, last, rfl, rfl⟩

/-- **Spaces behind a text add to its display width**, unless it leaves a control string open. -/
theorem displayWidth_append_room {cs : List Char} (closed : ¬ LeftOpen cs) (n : Nat) :
    displayWidth (cs ++ room n) = displayWidth cs + n := by
  obtain ⟨others, last, same, more⟩ := stretches_append_room closed n
  rw [displayWidth_eq, displayWidth_eq, same, more]
  simp only [List.map_append, List.map_singleton, List.sum_append, List.sum_singleton,
    columns_append_room]
  omega

/-- **Spaces behind a text that leaves a control string open add nothing to its display width.** -/
theorem LeftOpen.displayWidth_append_room {cs : List Char} (h : LeftOpen cs) (n : Nat) :
    displayWidth (cs ++ room n) = displayWidth cs := by
  rw [displayWidth_eq, displayWidth_eq, h.stretches_append_room]

end Stencil.Text

namespace Stencil

open Text

namespace FormatSpec

/-! ## 5. Padding -/

/-- A text with spaces on the side away from its alignment. -/
def spaced (align : Option Align) (n : Nat) (cs : List Char) : List Char :=
  match align with
  | some .left => cs ++ room n
  | some .right | none => room n ++ cs

variable {align : Option Align} {cs : List Char}

theorem padTo_eq (align : Option Align) (width : Nat) (cs : List Char) :
    padTo align width cs = spaced align (width - displayWidth cs) cs := rfl

/-- **Padding gives the width that is asked for**, unless spaces go behind an open control string. -/
theorem displayWidth_padTo (shown : ¬ (align = some .left ∧ LeftOpen cs)) (width : Nat) :
    displayWidth (padTo align width cs) = max width (displayWidth cs) := by
  have front : displayWidth (room (width - displayWidth cs) ++ cs) = max width (displayWidth cs) := by
    rw [displayWidth_room_append]
    omega
  rw [padTo_eq]
  cases align with
  | none => exact front
  | some side =>
    cases side with
    | right => exact front
    | left =>
      rw [spaced, displayWidth_append_room fun opened => shown ⟨rfl, opened⟩]
      omega

/-- Behind an open control string padding gives no width at all. -/
theorem displayWidth_padTo_of_leftOpen (opened : LeftOpen cs) (width : Nat) :
    displayWidth (padTo (some .left) width cs) = displayWidth cs :=
  opened.displayWidth_append_room _

/-- What is laid out is the body, padded. -/
theorem render_eq_ok_iff {s : FormatSpec} {v : Value} {text : String} :
    s.render v = .ok text ↔ ∃ cs, s.body v = .ok cs ∧ text = String.ofList (s.pad cs) := by
  unfold render
  cases s.body v with
  | error e => simp
  | ok cs => simp [eq_comm]

end FormatSpec

/-- A value that is not empty is laid out by the specification that its format spells. -/
theorem render_of_applyFormat {v : Value} {format text : String} {s : FormatSpec}
    (filled : v.isNull = false) (parsed : FormatSpec.parse format = .ok s)
    (applied : applyFormat v format = .ok text) : s.render v = .ok text := by
  rw [applyFormat, filled, if_neg Bool.false_ne_true, parsed] at applied
  dsimp only at applied
  cases rendered : s.render v with
  | error e =>
    rw [rendered] at applied
    cases applied
  | ok text' =>
    rw [rendered] at applied
    cases applied
    rfl

/-- **The width of a format is a least display width.** When a format with a width applies to a value
that is not empty, the result is what the same specification without the width gives, with spaces on
the side away from the alignment, as many as its display width leaves to that width. The display
width of the result is the greater of the two, unless the text stands on the left and leaves a
control string open: the spaces are then swallowed by it, and the display width is that of the text. -/
theorem width_is_least (v : Value) (filled : v.isNull = false) (format : String) (s : FormatSpec)
    (parsed : FormatSpec.parse format = .ok s) (width : Nat) (wide : s.width = some width)
    (text : String) (applied : applyFormat v format = .ok text) :
    ∃ plain : List Char, { s with width := none }.render v = .ok (String.ofList plain) ∧
      text = String.ofList (FormatSpec.spaced s.align (width - displayWidth plain) plain) ∧
      (¬ (s.align = some .left ∧ LeftOpen plain) →
        displayWidth text.toList = max width (displayWidth plain)) ∧
      (s.align = some .left ∧ LeftOpen plain → displayWidth text.toList = displayWidth plain) := by
  have rendered := render_of_applyFormat filled parsed applied
  obtain ⟨plain, body, rfl⟩ := FormatSpec.render_eq_ok_iff.mp rendered
  have padded : s.pad plain = FormatSpec.padTo s.align width plain := by
    rw [FormatSpec.pad, wide]
  rw [padded, String.toList_ofList]
  refine ⟨plain, FormatSpec.render_eq_ok_iff.mpr ⟨plain, body, rfl⟩, rfl, fun shown => ?_, ?_⟩
  · exact FormatSpec.displayWidth_padTo shown width
  · rintro ⟨left, opened⟩
    rw [left]
    exact FormatSpec.displayWidth_padTo_of_leftOpen opened width

/-- A styled text of two columns. -/
def styledText : String := "\x1b[1mab\x1b[0m"

theorem not_leftOpen_styledText : ¬ LeftOpen styledText.toList := by
  have opening : afterSequence? styledText.toList = some "ab\x1b[0m".toList := by rfl
  have closing : afterSequence? "\x1b[0m".toList = some [] := by rfl
  rw [leftOpen_behind_iff opening nofun]
  show ¬ LeftOpen ('a' :: 'b' :: "\x1b[0m".toList)
  rw [leftOpen_cons_iff rfl, leftOpen_cons_iff rfl, leftOpen_behind_iff closing nofun]
  exact not_leftOpen_nil

theorem width_is_least_styled :
    (Value.string styledText).isNull = false ∧
    FormatSpec.parse "<4" = .ok ⟨some .left, some 4, none, .text⟩ ∧
    applyFormat (.string styledText) "<4" = .ok "\x1b[1mab\x1b[0m  " ∧
    displayWidth "\x1b[1mab\x1b[0m  ".toList = 4 := by
  have parsed : FormatSpec.parse "<4" = .ok ⟨some .left, some 4, none, .text⟩ := by rfl
  have applied : applyFormat (.string styledText) "<4" = .ok "\x1b[1mab\x1b[0m  " := by rfl
  obtain ⟨plain, rendered, -, shown, -⟩ :=
    width_is_least (.string styledText) rfl "<4" _ parsed 4 rfl _ applied
  obtain rfl : styledText.toList = plain := by
    have same := Except.ok.inj rendered
    rw [← String.toList_ofList (l := plain), ← same]
    rfl
  exact ⟨rfl, parsed, applied, shown fun left => not_leftOpen_styledText left.2⟩

/-- A text that begins a command and does not end it. -/
def titleText : String := "\x1b]x"

/-- **A text that leaves a control string open misses its width**: the spaces behind it are not
shown. -/
theorem left_open_text_misses_width : ¬ ∀ (v : Value) (format : String) (s : FormatSpec)
    (width : Nat) (text : String), v.isNull = false → FormatSpec.parse format = .ok s →
      s.width = some width → applyFormat v format = .ok text →
        ∃ (plain : List Char) (n : Nat),
          { s with width := none }.render v = .ok (String.ofList plain) ∧
          text = String.ofList (FormatSpec.spaced s.align n plain) ∧
          displayWidth text.toList = max width (displayWidth plain) := by
  intro all
  have applied : applyFormat (.string titleText) "<5" = .ok "\x1b]x     " := by rfl
  obtain ⟨plain, n, -, -, wide⟩ := all (.string titleText) "<5" ⟨some .left, some 5, none, .text⟩ 5
    "\x1b]x     " rfl rfl rfl applied
  have swallowed : displayWidth "\x1b]x     ".toList = 0 := by decide
  omega

end Stencil

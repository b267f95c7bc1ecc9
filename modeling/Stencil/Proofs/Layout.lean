import Stencil.Engine.Render
import Stencil.Proofs.DisplayWidth
import Stencil.Proofs.FixedPlaces
import Stencil.Proofs.FormatGrammar

/-!
# What a format makes of a value

A format applies to a value when it is the text of a specification that suits the value, and nothing
else matters for it. The empty value takes any format.

* `FormatSpec.Suits`: any value suits the text kind, numbers the kind of fixed places, and integers the
  integer kind;
* `FormatSpec.Shows`: what a value is as text before it is padded. There is such a text if and only if
  the specification suits the value (`exists_shows_iff`), and it is what is laid out
  (`body_eq_ok_iff`);
* `applyFormat_eq_ok_iff`, `applyFormat_error`: when a format applies, and what it fails with;
* `format_outcome`: all of it.
-/

namespace Stencil

open Numeric

/-! ## 1. Specifications and values -/

/-- An integer is written as its decimal digits, with a minus sign in front of a negative one. -/
theorem intText_eq (n : Int) : intText n = (toString n).toList := by
  cases n with
  | ofNat n => exact (String.toList_ofList (l := digits n)).symm
  | negSucc n =>
    have sign : signText (Int.negSucc n < 0) = ['-'] := by
      rw [decide_eq_true (Int.negSucc_lt_zero n)]
      rfl
    have written : toString (Int.negSucc n) = "-" ++ Nat.repr (n + 1) := rfl
    rw [intText, sign, written, String.toList_append, Nat.repr]
    exact congrArg ('-' :: ·) String.toList_ofList.symm

namespace FormatSpec

/-- The text is one of the grammar and stands for the specification. -/
def SpelledBy (s : FormatSpec) (format : String) : Prop :=
  ∃ p : Parts, p.Greedy ∧ p.Admitted ∧ p.text = format.toList ∧ p.spec = s

/-- The kind of the specification suits the value. -/
inductive Suits (s : FormatSpec) : Value → Prop where
  | text (v : Value) (kind : s.kind = .text) : Suits s v
  | fixed (n : Number) (kind : s.kind = .fixed) : Suits s (.number n)
  | signed (n : Int64) (kind : s.kind = .integer) : Suits s (.number (.signed n))
  | unsigned (n : UInt64) (kind : s.kind = .integer) : Suits s (.number (.unsigned n))

/-- What a value is as text under a specification, before it is padded. -/
inductive Shows (s : FormatSpec) : Value → List Char → Prop where
  | whole (v : Value) (kind : s.kind = .text) (uncut : s.precision = none) :
      Shows s v v.text.toList
  /-- A precision cuts the text off, if it is longer. -/
  | front (v : Value) {places : Nat} (kind : s.kind = .text) (cut : s.precision = some places) :
      Shows s v (v.text.toList.take (min places v.text.toList.length))
  | signed (n : Int64) (kind : s.kind = .integer) :
      Shows s (.number (.signed n)) (toString n.toInt).toList
  | unsigned (n : UInt64) (kind : s.kind = .integer) :
      Shows s (.number (.unsigned n)) (toString n.toNat).toList
  /-- Without a precision there are six places. -/
  | fixed (n : Number) {cs : List Char} (kind : s.kind = .fixed)
      (written : FixedText (s.precision.getD 6) n.toDouble cs) : Shows s (.number n) cs

variable {s : FormatSpec} {v : Value} {cs : List Char}

/-- **The body of a layout is what the value is as text.** -/
theorem body_eq_ok_iff : s.body v = .ok cs ↔ s.Shows v cs := by
  constructor
  · intro laid
    rw [body] at laid
    cases kind : s.kind with
    | fixed =>
      rw [kind] at laid
      cases v with
      | number n =>
        cases laid
        exact .fixed n kind (fixedText_iff.mpr rfl)
      | null | bool | string | object => cases laid
    | integer =>
      rw [kind] at laid
      cases v with
      | number n =>
        cases n with
        | signed n =>
          cases laid
          rw [intText_eq]
          exact .signed n kind
        | unsigned n =>
          cases laid
          rw [intText_eq]
          exact .unsigned n kind
        | float x => cases laid
      | null | bool | string | object => cases laid
    | text =>
      rw [kind] at laid
      cases cut : s.precision with
      | none =>
        rw [cut] at laid
        cases laid
        exact .whole v kind cut
      | some places =>
        rw [cut] at laid
        cases laid
        dsimp only
        rw [List.take_eq_take_min]
        exact .front v kind cut
  · intro shown
    cases shown with
    | whole v kind uncut => rw [body, kind, uncut]
    | front v kind cut =>
      rw [← List.take_eq_take_min, body, kind, cut]
    | signed n kind =>
      rw [← intText_eq, body, kind]
      rfl
    | unsigned n kind =>
      have digits : (toString n.toNat).toList = intText n.toNat := (intText_eq n.toNat).symm
      rw [digits, body, kind]
      rfl
    | fixed n kind written =>
      rw [fixedText_iff.mp written, body, kind]
      rfl

/-- **There is a text for the value if and only if the specification suits it.** -/
theorem exists_shows_iff : (∃ cs, s.Shows v cs) ↔ s.Suits v := by
  constructor
  · intro ⟨cs, shown⟩
    cases shown with
    | whole v kind | front v kind => exact .text v kind
    | signed n kind => exact .signed n kind
    | unsigned n kind => exact .unsigned n kind
    | fixed n kind => exact .fixed n kind
  · intro suits
    cases suits with
    | text v kind =>
      cases cut : s.precision with
      | none => exact ⟨_, .whole v kind cut⟩
      | some places => exact ⟨_, .front v kind cut⟩
    | fixed n kind => exact ⟨_, .fixed n kind (fixedText_iff.mpr rfl)⟩
    | signed n kind => exact ⟨_, .signed n kind⟩
    | unsigned n kind => exact ⟨_, .unsigned n kind⟩

theorem spelledBy_iff {format : String} : s.SpelledBy format ↔ parse format = .ok s :=
  parse_eq_ok_iff_parts.symm

end FormatSpec

/-! ## 2. Formats -/

variable {v : Value} {format : String}

/-- **A format applies when it spells a specification that suits the value**; the result is the text
of the value under it, padded. -/
theorem applyFormat_eq_ok_iff (filled : v.isNull = false) {text : String} :
    applyFormat v format = .ok text ↔ ∃ s cs, FormatSpec.SpelledBy s format ∧ s.Shows v cs ∧
      text = String.ofList (s.pad cs) := by
  have rendered : applyFormat v format = .ok text ↔
      ∃ s, FormatSpec.parse format = .ok s ∧ s.render v = .ok text := by
    rw [applyFormat, filled, if_neg Bool.false_ne_true]
    cases FormatSpec.parse format with
    | error e => simp
    | ok s => cases h : s.render v <;> simp [h]
  rw [rendered]
  simp only [FormatSpec.render_eq_ok_iff, FormatSpec.body_eq_ok_iff, FormatSpec.spelledBy_iff,
    exists_and_left]

/-- **What fails is the format, for the value as it is shown.** -/
theorem applyFormat_error {error : RenderError} (failed : applyFormat v format = .error error) :
    ∃ reason, error = .invalidFormat format v.text reason := by
  rw [applyFormat] at failed
  cases filled : v.isNull with
  | true =>
    rw [filled, if_pos rfl] at failed
    cases failed
  | false =>
    rw [filled, if_neg Bool.false_ne_true] at failed
    cases parsed : FormatSpec.parse format with
    | error reason =>
      rw [parsed] at failed
      cases failed
      exact ⟨reason, rfl⟩
    | ok s =>
      rw [parsed] at failed
      dsimp only at failed
      cases rendered : s.render v with
      | error reason =>
        rw [rendered] at failed
        cases failed
        exact ⟨reason, rfl⟩
      | ok text =>
        rw [rendered] at failed
        cases failed

/-- The empty format changes nothing. -/
theorem applyFormat_empty (v : Value) : applyFormat v "" = .ok v.text := by
  cases filled : v.isNull with
  | true => rw [applyFormat, filled, if_pos rfl]
  | false =>
    have spelled : FormatSpec.default.SpelledBy "" := FormatSpec.spelledBy_iff.mpr rfl
    refine (applyFormat_eq_ok_iff filled).mpr ⟨_, _, spelled, .whole v rfl rfl, ?_⟩
    exact String.ofList_toList.symm

/-- **The outcome of a format** hangs on the kind of the value and the specification alone. The empty
value is shown as it is, whatever the format says. To any other value the format applies if and only
if it is a text of the grammar whose specification suits the value. Without a width the result is the
text of the value under the specification; the empty format gives what a placeholder without a format
gives. When a format fails, the error has the format and the whole text of the value. -/
theorem format_outcome (format : String) :
    applyFormat .null format = .ok "null" ∧
    (∀ v : Value, v.isNull = false → ((∃ text, applyFormat v format = .ok text) ↔
      ∃ s : FormatSpec, s.SpelledBy format ∧ s.Suits v)) ∧
    (∀ (v : Value) (s : FormatSpec), v.isNull = false → s.SpelledBy format → s.width = none →
      ∀ text, applyFormat v format = .ok text ↔ s.Shows v text.toList) ∧
    (∀ (v : Value) (error : RenderError), applyFormat v format = .error error →
      ∃ reason, error = .invalidFormat format v.text reason) ∧
    ∀ (values : ValueMap) (path : String) (offset : Nat) (e : Engine),
      e.fillIn values ⟨path, some "", offset⟩ = e.fillIn values ⟨path, none, offset⟩ := by
  refine ⟨rfl, ?_, ?_, fun _ _ => applyFormat_error, ?_⟩
  · intro v filled
    simp only [applyFormat_eq_ok_iff filled, ← FormatSpec.exists_shows_iff]
    constructor
    · intro ⟨text, s, cs, spelled, shown, _⟩
      exact ⟨s, spelled, cs, shown⟩
    · intro ⟨s, spelled, cs, shown⟩
      exact ⟨_, s, cs, spelled, shown, rfl⟩
  · intro v s filled spelled narrow text
    have unpadded : ∀ cs, s.pad cs = cs := by
      intro cs
      rw [FormatSpec.pad, narrow]
    rw [applyFormat_eq_ok_iff filled]
    constructor
    · rintro ⟨s', cs, spelled', shown, same⟩
      have read := FormatSpec.spelledBy_iff.mp spelled
      rw [FormatSpec.spelledBy_iff.mp spelled'] at read
      cases read
      rw [same, unpadded, String.toList_ofList]
      exact shown
    · intro shown
      refine ⟨s, text.toList, spelled, shown, ?_⟩
      rw [unpadded, String.ofList_toList]
  · intro values path offset e
    rw [Engine.fillIn, Engine.fillIn]
    rcases e.resolve path values with ⟨error | v, s⟩
    · rfl
    · dsimp only
      rw [applyFormat_empty]

/-- The greatest integer, in full, and a text that is cut off between two characters. -/
example : applyFormat (.number (.unsigned 0xFFFFFFFFFFFFFFFF)) "d" = .ok "18446744073709551615" ∧
    applyFormat (.string "größe") ".3" = .ok "grö" := by
  decide

end Stencil

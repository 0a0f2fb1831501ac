import Mathlib.Algebra.Group.Int.Defs
import NowPlaying.Proofs.Json.Grammar
import NowPlaying.Proofs.NameMap

/-!
# Members of a written object

The text of an object holds a list of members, in the order in which they are written, and a name may stand in it several times. What is read as the object are these members gathered by name, so under each name there is the last one. Whatever is read, an integer in it has 64 bits.
-/

namespace NowPlaying.Json

/-! ### Gathered members -/

theorem gather_eq_entries (members : List (String × Json)) : gather members = (NameMap.ofList members).entries := by
  change members.foldl _ (NameMap.entries NameMap.empty) = _
  exact List.foldl_hom NameMap.entries fun map member => rfl

theorem last?_gather (members : List (String × Json)) (name : String) :
    Entries.last? (gather members) name = Entries.last? members name := by
  rw [gather_eq_entries, NameMap.last?_entries, NameMap.get?_ofList]

/-! ### Integers that are read -/

/-- An integer has 64 bits, with a sign or without. -/
def IsSized : Json → Prop
  | .integer value => -2 ^ 63 ≤ value ∧ value < 2 ^ 64
  | _ => True

def IsObject : Json → Prop
  | .object _ => True
  | _ => False

section

variable {json : Json} {s : List Char}

theorem toJson?_sized {n : NumberText} (h : n.toJson? = some json) : json.IsSized ∧ ¬ json.IsObject := by
  have hlimit : maxSignificand = 2 ^ 64 - 1 := rfl
  have hleast : Nat.pow 2 63 = 2 ^ 63 := rfl
  rw [NumberText.toJson?] at h
  generalize Number.ofDigits n.whole = value at h
  split at h
  · next hplain =>
    obtain rfl := Option.some.inj h
    have hle : value ≤ maxSignificand := of_decide_eq_true (Bool.and_eq_true_iff.mp hplain).2
    exact ⟨⟨by omega, by omega⟩, id⟩
  · split at h
    · next hnegative =>
      obtain rfl := Option.some.inj h
      have hle : value ≤ Nat.pow 2 63 := of_decide_eq_true (Bool.and_eq_true_iff.mp hnegative).2
      exact ⟨⟨by omega, by omega⟩, id⟩
    · obtain ⟨value, -, rfl⟩ := Option.map_eq_some_iff.mp h
      exact ⟨trivial, id⟩

theorem IsScalar.sized (h : IsScalar json s) : json.IsSized ∧ ¬ json.IsObject := by
  cases h with
  | word h => cases h <;> exact ⟨trivial, id⟩
  | text _ => exact ⟨trivial, id⟩
  | number _ hjson => exact toJson?_sized hjson

theorem IsValue.sized {depth : Nat} (h : IsValue depth json s) : json.IsSized := by
  cases depth with
  | zero => exact (IsScalar.sized h).1
  | succ depth =>
    obtain hscalar | ⟨items, inside, rfl, -⟩ | ⟨members, inside, rfl, -⟩ := h
    · exact hscalar.sized.1
    · trivial
    · trivial

end

/-! ### Texts of objects -/

/-- The text is an object, with blanks around it, and these are the members between its braces as they are written. -/
def HoldsMembers (text : String) (members : List (String × Json)) : Prop :=
  ∃ before inside after, text.toList = before ++ '{' :: inside ++ '}' :: after ∧ IsBlanks before ∧ IsBlanks after ∧
    IsInside (IsMember (IsValue (maxDepth - 1))) members inside

/-- The members of a text are found by its reader before it gathers them. -/
theorem HoldsMembers.of_readBracket? {text : String} {members : List (String × Json)} {tail behind : List Char}
    (htext : skipBlank text.toList = '{' :: tail)
    (hread : readBracket? (readMember? (readValue? (maxDepth - 1))) '}' tail = some (members, behind))
    (hbehind : skipBlank behind = []) : HoldsMembers text members := by
  obtain ⟨before, hbefore, htail⟩ := exists_blanks text.toList
  obtain ⟨inside, rfl, hinside⟩ := ((reads_value (maxDepth - 1)).member.readBracket?_eq_some_iff (.inr rfl)).mp hread
  refine ⟨before, inside, behind, ?_, hbefore, List.dropWhile_eq_nil_iff.mp hbehind, hinside⟩
  rw [htail, htext]
  simp only [List.append_assoc, List.cons_append]

theorem IsItems.exists_of_mem {α : Type} {P : α → List Char → Prop} {items : List α} {s : List Char} (h : IsItems P items s) :
    ∀ a ∈ items, ∃ t, P a t := by
  induction h with
  | last _ hitem _ => exact List.forall_mem_singleton.mpr ⟨_, hitem⟩
  | more _ hitem _ _ ih => exact List.forall_mem_cons.mpr ⟨⟨_, hitem⟩, ih⟩

theorem HoldsMembers.sized {text : String} {members : List (String × Json)} (h : HoldsMembers text members) :
    ∀ member ∈ members, member.2.IsSized := by
  obtain ⟨before, inside, after, -, -, -, hinside⟩ := h
  intro member hmem
  cases hinside with
  | blanks _ => exact absurd hmem List.not_mem_nil
  | items hitems =>
    obtain ⟨s, hmember⟩ := hitems.exists_of_mem member hmem
    obtain ⟨_, _, _, hvalue⟩ := hmember
    exact hvalue.sized

theorem isValue_object_iff {depth : Nat} {gathered : List (String × Json)} {s : List Char} :
    IsValue (depth + 1) (.object gathered) s ↔
      ∃ members inside, gathered = gather members ∧ s = '{' :: inside ++ ['}'] ∧
        IsInside (IsMember (IsValue depth)) members inside := by
  constructor
  · rintro (hscalar | ⟨items, inside, hlist, -⟩ | ⟨members, inside, hobject, hs, hinside⟩)
    · exact absurd trivial hscalar.sized.2
    · contradiction
    · exact ⟨members, inside, Json.object.inj hobject, hs, hinside⟩
  · rintro ⟨members, inside, rfl, hs, hinside⟩
    exact .inr (.inr ⟨members, inside, rfl, hs, hinside⟩)

theorem read?_eq_object_iff {text : String} {gathered : List (String × Json)} :
    read? text = some (.object gathered) ↔ ∃ members, HoldsMembers text members ∧ gathered = gather members := by
  rw [read?_eq_some_iff]
  constructor
  · rintro ⟨before, s, after, htext, hbefore, hafter, hvalue⟩
    obtain ⟨members, inside, rfl, rfl, hinside⟩ := isValue_object_iff.mp hvalue
    refine ⟨members, ⟨before, inside, after, ?_, hbefore, hafter, hinside⟩, rfl⟩
    rw [htext]
    simp only [List.append_assoc, List.cons_append, List.nil_append]
  · rintro ⟨members, ⟨before, inside, after, htext, hbefore, hafter, hinside⟩, rfl⟩
    refine ⟨before, '{' :: inside ++ ['}'], after, ?_, hbefore, hafter, isValue_object_iff.mpr ⟨members, inside, rfl, rfl, hinside⟩⟩
    rw [htext]
    simp only [List.append_assoc, List.cons_append, List.nil_append]

end NowPlaying.Json

import Mathlib.Tactic.Common

/-!
Keys written as texts: fields between separators. A number writes no separator,
so the fields of a key can be read back.
-/

namespace Relational

theorem toString_injective {m n : Nat} (same : toString m = toString n) : m = n := by
  have digits : Nat.toDigits 10 m = Nat.toDigits 10 n := by
    have texts : String.ofList (Nat.toDigits 10 m) = String.ofList (Nat.toDigits 10 n) := same
    rw [← String.toList_ofList (l := Nat.toDigits 10 m), texts, String.toList_ofList]
  rw [← @Nat.ofDigitChars_ten_toDigits m, digits, Nat.ofDigitChars_ten_toDigits]

theorem separator_not_mem_toString {c : Char} (separator : c.isDigit = false) (n : Nat) :
    c ∉ (toString n).toList := by
  intro member
  have digit : c ∈ Nat.toDigits 10 n := by
    change c ∈ (String.ofList (Nat.toDigits 10 n)).toList at member
    rw [String.toList_ofList] at member
    exact member
  rw [Nat.isDigit_of_mem_toDigits (by decide) (by decide) digit] at separator
  cases separator

theorem fields_eq {c : Char} {first first' rest rest' : List Char} (free : c ∉ first)
    (free' : c ∉ first') (same : first ++ c :: rest = first' ++ c :: rest') :
    first = first' ∧ rest = rest' := by
  induction first generalizing first' with
  | nil =>
      cases first' with
      | nil => exact ⟨rfl, (List.cons.inj same).2⟩
      | cons head tail =>
          have here := (List.cons.inj same).1
          exact absurd (here ▸ List.mem_cons_self) free'
  | cons head tail ih =>
      cases first' with
      | nil =>
          have here := (List.cons.inj same).1
          exact absurd (here ▸ List.mem_cons_self) free
      | cons head' tail' =>
          obtain ⟨here, there⟩ := List.cons.inj same
          obtain ⟨tails, rests⟩ := ih (fun member => free (List.mem_cons_of_mem _ member))
            (fun member => free' (List.mem_cons_of_mem _ member)) there
          exact ⟨by rw [here, tails], rests⟩

theorem lastField_eq {c : Char} {first first' last last' : List Char} (free : c ∉ last)
    (free' : c ∉ last') (same : first ++ c :: last = first' ++ c :: last') :
    first = first' ∧ last = last' := by
  have turned := congrArg List.reverse same
  simp only [List.reverse_append, List.reverse_cons, List.append_assoc, List.singleton_append]
    at turned
  obtain ⟨lasts, firsts⟩ := fields_eq (fun member => free (List.mem_reverse.mp member))
    (fun member => free' (List.mem_reverse.mp member)) turned
  exact ⟨List.reverse_inj.mp firsts, List.reverse_inj.mp lasts⟩

/-- A numbered field before a separator is read back with what follows it. -/
theorem numbered_eq {c : Char} (separator : c.isDigit = false) {m n : Nat}
    {rest rest' : List Char}
    (same : (toString m).toList ++ c :: rest = (toString n).toList ++ c :: rest') :
    m = n ∧ rest = rest' := by
  obtain ⟨numbers, rests⟩ := fields_eq (separator_not_mem_toString separator m)
    (separator_not_mem_toString separator n) same
  exact ⟨toString_injective (String.toList_inj.mp numbers), rests⟩

end Relational

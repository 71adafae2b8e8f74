import Mathlib.Logic.Function.Iterate
import SupplyChain.Numeration
import SupplyChain.SafeXlsx.Workbook

/-!
The names of the columns. `columnReference` writes the number of a column in bijective
numeration with the letters for digits, so the names are the words over `A` to `Z` in
shortlex order.
-/

namespace SupplyChain.SafeXlsx

open Numeration

/-- A word over the letters `A` to `Z`. -/
def ColumnName (name : List Char) : Prop := name ≠ [] ∧ ∀ c ∈ name, 'A' ≤ c ∧ c ≤ 'Z'

/-- `sum(26^k * digit) - 1`, the last letter first. -/
def decodeColumn (name : List Char) : Nat :=
  (name.reverse.mapIdx fun k c => 26 ^ k * (c.toNat - 64)).sum - 1

/-- One round of the loop: the value and the letters before it, and after it. -/
def columnRound (state : Nat × List Char) : Nat × List Char :=
  ((state.1 - 1) / 26, Char.ofNat (65 + (state.1 - 1) % 26) :: state.2)

/-! ## Letters -/

def columnLetter (digit : Fin 26) : Char := Char.ofNat (65 + digit)

theorem columnLetter_toNat (digit : Fin 26) : (columnLetter digit).toNat = 65 + digit := by
  revert digit
  decide

theorem columnLetter_range (digit : Fin 26) : 'A' ≤ columnLetter digit ∧ columnLetter digit ≤ 'Z' := by
  revert digit
  decide

theorem columnLetter_lt {a b : Fin 26} : columnLetter a < columnLetter b ↔ a < b := by
  revert a b
  decide

theorem columnLetter_injective : Function.Injective columnLetter := by
  intro a b same
  have codes := congrArg Char.toNat same
  rw [columnLetter_toNat, columnLetter_toNat] at codes
  exact Fin.ext (Nat.add_left_cancel codes)

theorem exists_columnLetter {c : Char} (least : 'A' ≤ c) (most : c ≤ 'Z') :
    ∃ digit, columnLetter digit = c := by
  have least : 65 ≤ c.toNat := least
  have most : c.toNat ≤ 90 := most
  refine ⟨⟨c.toNat - 65, by omega⟩, ?_⟩
  apply Char.toNat_inj.mp
  rw [columnLetter_toNat]
  dsimp only
  omega

def columnWord (digits : List (Fin 26)) : List Char := digits.map columnLetter

theorem columnWord_name {digits : List (Fin 26)} (filled : digits ≠ []) :
    ColumnName (columnWord digits) := by
  constructor
  · intro none
    exact filled (List.map_eq_nil_iff.mp none)
  · intro c member
    obtain ⟨digit, -, rfl⟩ := List.mem_map.mp member
    exact columnLetter_range digit

theorem exists_columnWord {name : List Char} (letters : ∀ c ∈ name, 'A' ≤ c ∧ c ≤ 'Z') :
    ∃ digits, columnWord digits = name := by
  induction name with
  | nil => exact ⟨[], rfl⟩
  | cons c rest ih =>
      obtain ⟨digits, rest_eq⟩ := ih fun other member => letters other (List.mem_cons_of_mem c member)
      obtain ⟨least, most⟩ := letters c List.mem_cons_self
      obtain ⟨digit, letter⟩ := exists_columnLetter least most
      exact ⟨digit :: digits, congrArg₂ List.cons letter rest_eq⟩

theorem columnWord_injective : Function.Injective columnWord :=
  List.map_injective_iff.mpr columnLetter_injective

theorem columnWord_lex {v w : List (Fin 26)} :
    List.Lex (· < ·) (columnWord v) (columnWord w) ↔ List.Lex (· < ·) v w := by
  induction v generalizing w with
  | nil =>
      cases w with
      | nil =>
          constructor
          · intro before
            cases before
          · intro before
            cases before
      | cons digit w => exact iff_of_true List.Lex.nil List.Lex.nil
  | cons digit v ih =>
      cases w with
      | nil =>
          constructor
          · intro before
            cases before
          · intro before
            cases before
      | cons digit' w =>
          simp only [columnWord, List.map_cons, List.cons_lex_cons_iff, columnLetter_lt,
            columnLetter_injective.eq_iff]
          exact or_congr_right (and_congr_right fun _ => ih)

theorem columnWord_shortlex {v w : List (Fin 26)} :
    List.Shortlex (· < ·) (columnWord v) (columnWord w) ↔ List.Shortlex (· < ·) v w := by
  rw [List.shortlex_def, List.shortlex_def, columnWord_lex, columnWord, columnWord,
    List.length_map, List.length_map]

theorem decodeColumn_word (digits : List (Fin 26)) :
    decodeColumn (columnWord digits) = number digits - 1 := by
  have weighed := @foldl_sum 26 Char (fun c => c.toNat - 64) (columnWord digits)
  rw [decodeColumn, ← weighed, columnWord, List.foldl_map]
  have value : ∀ digit : Fin 26, (columnLetter digit).toNat - 64 = digit + 1 := by
    intro digit
    rw [columnLetter_toNat]
    omega
  simp only [value]
  rfl

/-! ## The loop -/

theorem columnLetters_word {fuel value : Nat} {letters : List Char} (enough : value ≤ fuel) :
    ∃ digits, number digits = value ∧
      columnLetters fuel value letters = columnWord digits ++ letters := by
  induction fuel generalizing value letters with
  | zero => exact ⟨[], (Nat.eq_zero_of_le_zero enough).symm, rfl⟩
  | succ fuel ih =>
      by_cases positive : 0 < value
      · have smaller : (value - 1) / 26 ≤ fuel := by omega
        obtain ⟨front, counted, written⟩ := @ih ((value - 1) / 26)
          (Char.ofNat (65 + (value - 1) % 26) :: letters) smaller
        refine ⟨front ++ [⟨(value - 1) % 26, Nat.mod_lt _ (by decide)⟩], ?_, ?_⟩
        · rw [number_concat, counted]
          dsimp only
          omega
        · rw [columnLetters, if_pos positive, written, columnWord, columnWord, List.map_append,
            List.append_assoc]
          rfl
      · refine ⟨[], ?_, ?_⟩
        · exact (Nat.eq_zero_of_not_pos positive).symm
        · rw [columnLetters, if_neg positive]
          rfl

theorem columnLetters_rounds {fuel value : Nat} {letters : List Char} (enough : value ≤ fuel) :
    ∃ rounds, (∀ earlier < rounds, 0 < (columnRound^[earlier] (value, letters)).1) ∧
      columnRound^[rounds] (value, letters) = (0, columnLetters fuel value letters) := by
  induction fuel generalizing value letters with
  | zero =>
      obtain rfl := Nat.eq_zero_of_le_zero enough
      exact ⟨0, fun _ none => absurd none (Nat.not_lt_zero _), rfl⟩
  | succ fuel ih =>
      by_cases positive : 0 < value
      · have smaller : (value - 1) / 26 ≤ fuel := by omega
        obtain ⟨rounds, running, ended⟩ := @ih ((value - 1) / 26)
          (Char.ofNat (65 + (value - 1) % 26) :: letters) smaller
        refine ⟨rounds + 1, ?_, ?_⟩
        · intro earlier before
          cases earlier with
          | zero => exact positive
          | succ earlier => exact running earlier (Nat.lt_of_succ_lt_succ before)
        · rw [columnLetters, if_pos positive]
          exact ended
      · refine ⟨0, fun _ none => absurd none (Nat.not_lt_zero _), ?_⟩
        obtain rfl := Nat.eq_zero_of_not_pos positive
        rw [columnLetters, if_neg positive]
        rfl

theorem columnReference_word (n : Nat) :
    ∃ digits, number digits = n + 1 ∧ (columnReference n).toList = columnWord digits := by
  obtain ⟨digits, counted, written⟩ := @columnLetters_word (n + 1) (n + 1) [] (Nat.le_refl _)
  refine ⟨digits, counted, ?_⟩
  rw [columnReference, written, List.append_nil, String.toList_ofList]

/-- A column name is the name of the column that it decodes to. -/
theorem columnName_word {name : List Char} (named : ColumnName name) :
    ∃ digits, digits ≠ [] ∧ columnWord digits = name := by
  obtain ⟨filled, letters⟩ := named
  obtain ⟨digits, rfl⟩ := exists_columnWord letters
  refine ⟨digits, ?_, rfl⟩
  rintro rfl
  exact filled rfl

/-- What the name of the `n`-th column is. -/
structure NthName (n : Nat) (name : List Char) : Prop where
  named : ColumnName name
  earlier : {other | ColumnName other ∧ List.Shortlex (· < ·) other name}.encard = n
  decoded : decodeColumn name = n

theorem columnReference_nth (n : Nat) : NthName n (columnReference n).toList := by
  obtain ⟨digits, counted, written⟩ := columnReference_word n
  rw [written]
  have filled : digits ≠ [] := by
    rintro rfl
    cases counted
  -- the empty word comes before every name and is none
  have earlier : {other | ColumnName other ∧ List.Shortlex (· < ·) other (columnWord digits)} =
      columnWord '' ({word | List.Shortlex (· < ·) word digits} \ {[]}) := by
    ext other
    constructor
    · rintro ⟨named, before⟩
      obtain ⟨word, filled, rfl⟩ := columnName_word named
      exact ⟨word, ⟨columnWord_shortlex.mp before, filled⟩, rfl⟩
    · rintro ⟨word, ⟨before, filled⟩, rfl⟩
      exact ⟨columnWord_name filled, columnWord_shortlex.mpr before⟩
  have first : [] ∈ {word | List.Shortlex (· < ·) word digits} :=
    List.Shortlex.of_length_lt (List.length_pos_of_ne_nil filled)
  refine ⟨columnWord_name filled, ?_, ?_⟩
  · have count := Set.encard_sdiff_singleton_add_one first
    rw [encard_before (by decide), counted] at count
    rw [earlier, columnWord_injective.encard_image]
    exact WithTop.add_right_cancel ENat.one_ne_top count
  · rw [decodeColumn_word, counted, Nat.add_sub_cancel]

theorem columnReference_lt {m n : Nat} (less : m < n) :
    List.Shortlex (· < ·) (columnReference m).toList (columnReference n).toList := by
  obtain ⟨v, countedV, writtenV⟩ := columnReference_word m
  obtain ⟨w, countedW, writtenW⟩ := columnReference_word n
  rw [writtenV, writtenW, columnWord_shortlex, ← number_lt_iff, countedV, countedW]
  omega

/-- The loop ends with the word of the column in shortlex order; different columns have
different names, and no name lies between those of neighbours. -/
theorem columnReference_shortlex (n : Nat) :
    (∃ rounds, (∀ earlier < rounds, 0 < (columnRound^[earlier] (n + 1, [])).1) ∧
      columnRound^[rounds] (n + 1, []) = (0, (columnReference n).toList)) ∧
    NthName n (columnReference n).toList ∧
    (∀ m, columnReference m = columnReference n → m = n) ∧
    List.Shortlex (· < ·) (columnReference n).toList (columnReference (n + 1)).toList ∧
    ∀ name, ColumnName name → ¬ (List.Shortlex (· < ·) (columnReference n).toList name ∧
      List.Shortlex (· < ·) name (columnReference (n + 1)).toList) := by
  refine ⟨?_, columnReference_nth n, ?_, columnReference_lt (Nat.lt_succ_self n), ?_⟩
  · obtain ⟨rounds, running, ended⟩ := @columnLetters_rounds (n + 1) (n + 1) [] (Nat.le_refl _)
    refine ⟨rounds, running, ?_⟩
    rw [ended, columnReference, String.toList_ofList]
  · intro m same
    rw [← (columnReference_nth m).decoded, same, (columnReference_nth n).decoded]
  · rintro name named ⟨after, before⟩
    obtain ⟨word, -, rfl⟩ := columnName_word named
    obtain ⟨v, countedV, writtenV⟩ := columnReference_word n
    obtain ⟨w, countedW, writtenW⟩ := columnReference_word (n + 1)
    rw [writtenV, columnWord_shortlex, ← number_lt_iff] at after
    rw [writtenW, columnWord_shortlex, ← number_lt_iff] at before
    omega

end SupplyChain.SafeXlsx

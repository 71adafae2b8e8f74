import SupplyChain.Xml

/-!
Writing XML. What is written in tags and in escaped characters is read back as the
elements that it says, with the line ends in its characters made one. The pieces of a
document are put together as their elements are.
-/

namespace Xml

variable {c : Char} {name rest characters : Text} {attributes : List Attribute}

/-! ## Characters -/

def escapeChar (c : Char) : Text :=
  if c = '&' then ['&', 'a', 'm', 'p', ';']
  else if c = '<' then ['&', 'l', 't', ';']
  else if c = '>' then ['&', 'g', 't', ';']
  else if c = quotationMark then ['&', 'q', 'u', 'o', 't', ';']
  else if c = apostrophe then ['&', 'a', 'p', 'o', 's', ';']
  else [c]

def escape (characters : Text) : Text := characters.flatMap escapeChar

/-- What is checked for each character holds for each of them. -/
theorem forall_of_all {holds : Char → Prop} [DecidablePred holds]
    (checked : characters.all (fun d => decide (holds d)) = true) : ∀ d ∈ characters, holds d :=
  fun d member => of_decide_eq_true (List.all_eq_true.mp checked d member)

/-- A character that is written as a reference by name. -/
structure Escaped (c : Char) (name : Text) : Prop where
  written : escapeChar c = '&' :: (name ++ [';'])
  refers : reference name = some c
  unended : ';' ∉ name
  still : ∀ d ∈ escapeChar c, (d ≠ '<' ∧ d ≠ '>') ∧ d ≠ carriageReturn ∧ isCharacter d = true
  apart : c ≠ lineFeed ∧ c ≠ carriageReturn

/-- Five characters are escaped, and the others stand for themselves. -/
theorem escapeChar_cases (c : Char) :
    (∃ name, Escaped c name) ∨ (c ≠ '&' ∧ c ≠ '<' ∧ c ≠ '>') ∧ escapeChar c = [c] := by
  by_cases ampersand : c = '&'
  · subst ampersand
    exact Or.inl
      ⟨['a', 'm', 'p'], by decide, by decide, by decide, forall_of_all (by decide), by decide⟩
  by_cases less : c = '<'
  · subst less
    exact Or.inl ⟨['l', 't'], by decide, by decide, by decide, forall_of_all (by decide), by decide⟩
  by_cases greater : c = '>'
  · subst greater
    exact Or.inl ⟨['g', 't'], by decide, by decide, by decide, forall_of_all (by decide), by decide⟩
  by_cases quoted : c = quotationMark
  · subst quoted
    exact Or.inl
      ⟨['q', 'u', 'o', 't'], by decide, by decide, by decide, forall_of_all (by decide), by decide⟩
  by_cases apostrophed : c = apostrophe
  · subst apostrophed
    exact Or.inl
      ⟨['a', 'p', 'o', 's'], by decide, by decide, by decide, forall_of_all (by decide), by decide⟩
  right
  constructor
  · exact ⟨ampersand, less, greater⟩
  · simp [escapeChar, ampersand, less, greater, quoted, apostrophed]

theorem expand_reference {pending : Text} (unended : ';' ∉ name) :
    expand (some pending) (name ++ ';' :: rest) =
      (reference (pending ++ name)).bind fun c => (expand none rest).map (c :: ·) := by
  induction name generalizing pending with
  | nil => simp [expand]
  | cons d name ih =>
      have other : d ≠ ';' := fun same => unended (same ▸ List.mem_cons_self)
      have later := @ih (pending ++ [d]) fun member => unended (List.mem_cons_of_mem d member)
      rw [List.append_assoc, List.singleton_append] at later
      rw [List.cons_append, expand]
      simpa only [if_neg other] using later

theorem expand_escapeChar (c : Char) (rest : Text) :
    expand none (escapeChar c ++ rest) = (expand none rest).map (c :: ·) := by
  rcases escapeChar_cases c with ⟨name, escaped⟩ | ⟨⟨other, -, -⟩, plain⟩
  · have read := @expand_reference name rest [] escaped.unended
    rw [List.nil_append, escaped.refers, Option.bind_some] at read
    rw [escaped.written, List.cons_append, List.append_assoc, List.singleton_append, expand]
    simpa only [if_true] using read
  · simp [plain, expand, other]

theorem expand_escape (characters rest : Text) :
    expand none (escape characters ++ rest) = (expand none rest).map (characters ++ ·) := by
  induction characters with
  | nil =>
      cases found : expand none rest with
      | none => simp [escape, found]
      | some expanded => simp [escape, found]
  | cons c characters ih =>
      rw [escape, List.flatMap_cons, List.append_assoc, expand_escapeChar]
      rw [escape] at ih
      rw [ih, Option.map_map]
      rfl

theorem escapeChar_filled (c : Char) : escapeChar c ≠ [] := by
  rcases escapeChar_cases c with ⟨name, escaped⟩ | ⟨-, plain⟩
  · rw [escaped.written]
    exact List.cons_ne_nil _ _
  · rw [plain]
    exact List.cons_ne_nil c []

theorem escape_filled (filled : characters ≠ []) : escape characters ≠ [] := by
  cases characters with
  | nil => exact absurd rfl filled
  | cons c characters =>
      rw [escape, List.flatMap_cons]
      exact List.append_ne_nil_of_left_ne_nil (escapeChar_filled c) _

theorem escapeChar_same (least : 43 ≤ c.toNat) (less : c ≠ '<') (greater : c ≠ '>') :
    escapeChar c = [c] := by
  have apart : ∀ d : Char, d.toNat < 43 → c ≠ d := by
    rintro d low rfl
    omega
  simp [escapeChar, less, greater, apart '&' (by decide), apart quotationMark (by decide),
    apart apostrophe (by decide)]

theorem escape_same (free : ∀ c ∈ characters, 43 ≤ c.toNat ∧ c ≠ '<' ∧ c ≠ '>') :
    escape characters = characters := by
  induction characters with
  | nil => rfl
  | cons c characters ih =>
      have later := ih fun d member => free d (List.mem_cons_of_mem c member)
      obtain ⟨least, less, greater⟩ := free c List.mem_cons_self
      rw [escape] at later
      rw [escape, List.flatMap_cons, escapeChar_same least less greater, later]
      rfl

/-- What is written for a character is allowed if the character is. -/
theorem escape_characters (allowed : characters.all isCharacter = true) :
    (escape characters).all isCharacter = true := by
  rw [escape, List.all_flatMap, List.all_eq_true]
  intro c member
  rw [List.all_eq_true]
  intro d inside
  rcases escapeChar_cases c with ⟨name, escaped⟩ | ⟨-, plain⟩
  · exact (escaped.still d inside).2.2
  · rw [plain, List.mem_singleton] at inside
    rw [inside]
    exact List.all_eq_true.mp allowed c member

theorem escape_free {d : Char} (member : d ∈ escape characters) : d ≠ '<' ∧ d ≠ '>' := by
  obtain ⟨c, -, inside⟩ := List.mem_flatMap.mp member
  rcases escapeChar_cases c with ⟨name, escaped⟩ | ⟨⟨-, less, greater⟩, plain⟩
  · exact (escaped.still d inside).1
  · rw [plain, List.mem_singleton] at inside
    rw [inside]
    exact ⟨less, greater⟩

/-! ## Runs of characters -/

/-- What follows does not go on with what `test` takes. -/
def Stops (test : Char → Bool) (rest : Text) : Prop := (rest.head?).any test = false

theorem stops_cons {test : Char → Bool} (other : test c = false) : Stops test (c :: rest) := by
  rw [Stops, List.head?_cons, Option.any_some]
  exact other

theorem takeWhile_stop {test : Char → Bool} {front : Text} (all : front.all test = true)
    (stop : Stops test rest) :
    (front ++ rest).takeWhile test = front ∧ (front ++ rest).dropWhile test = rest := by
  induction front with
  | nil =>
      cases rest with
      | nil => simp
      | cons c rest =>
          have other : test c = false := by simpa [Stops] using stop
          simp [other]
  | cons c front ih =>
      rw [List.all_cons, Bool.and_eq_true] at all
      have later := ih all.2
      simp [all.1, later]

def isName (name : Text) : Bool :=
  (name.head?).any isNameStart && name.all isNameChar && name.all isCharacter

theorem isName_start (named : isName name = true) :
    ∃ c tail, name = c :: tail ∧ isNameStart c = true := by
  cases name with
  | nil => simp [isName] at named
  | cons c tail =>
      rw [isName, Bool.and_eq_true, Bool.and_eq_true, List.head?_cons, Option.any_some] at named
      exact ⟨c, tail, rfl, named.1.1⟩

theorem scanName_name (named : isName name = true) (stop : Stops isNameChar rest) :
    scanName (name ++ rest) = some (name, rest) := by
  rw [isName, Bool.and_eq_true, Bool.and_eq_true] at named
  obtain ⟨front, back⟩ := takeWhile_stop named.1.2 stop
  rw [scanName, front, back, if_pos named.1.1]

theorem not_space_of_nameStart (start : isNameStart c = true) : isSpace c = false := by
  by_contra space
  rw [Bool.not_eq_false] at space
  -- a white space character is one of four, and none of them starts a name
  have four : c.val = 32 ∨ c.val = 9 ∨ c.val = 10 ∨ c.val = 13 := by
    simpa [isSpace, or_assoc] using space
  have plain : ∀ d : Char, c.val = d.val → isNameStart d = false → False := by
    intro d same other
    rw [Char.ext same, other] at start
    cases start
  rcases four with blank | tab | feed | back
  · exact plain ' ' blank (by decide)
  · exact plain (Char.ofNat 9) tab (by decide)
  · exact plain (Char.ofNat 10) feed (by decide)
  · exact plain (Char.ofNat 13) back (by decide)

theorem skipSpaces_stop (stop : Stops isSpace rest) : skipSpaces rest = rest :=
  (@takeWhile_stop rest isSpace [] rfl stop).2

/-! ## Attributes -/

/-- A character that stands for itself in quotes. -/
def isPlain (c : Char) : Bool :=
  c != '<' && c != '&' && c != quotationMark && (!isSpace c || c == ' ') && isCharacter c

theorem isCharacter_of_plain (plain : isPlain c = true) : isCharacter c = true := by
  rw [isPlain, Bool.and_eq_true] at plain
  exact plain.2

def attributeText (given : Attribute) : Text :=
  ' ' :: (given.name ++ '=' :: quotationMark :: (given.value ++ [quotationMark]))

structure Writable (attributes : List Attribute) : Prop where
  names : ∀ given ∈ attributes, isName given.name = true
  values : ∀ given ∈ attributes, given.value.all isPlain = true
  distinct : (attributes.map Attribute.name).Nodup

theorem writable_nil : Writable [] := by
  constructor
  · intro given none
    cases none
  · intro given none
    cases none
  · exact List.nodup_nil

theorem Writable.cons {value : Text} (writable : Writable attributes) (named : isName name = true)
    (plain : value.all isPlain = true) (fresh : name ∉ attributes.map Attribute.name) :
    Writable (⟨name, value⟩ :: attributes) := by
  constructor
  · intro given member
    rcases List.mem_cons.mp member with rfl | later
    · exact named
    · exact writable.names given later
  · intro given member
    rcases List.mem_cons.mp member with rfl | later
    · exact plain
    · exact writable.values given later
  · exact List.nodup_cons.mpr ⟨fresh, writable.distinct⟩

/-- Letters, digits and the signs between them stand for themselves. -/
theorem isPlain_between (least : 43 ≤ c.toNat) (most : c.toNat ≤ 122) (other : c ≠ '<') :
    isPlain c = true := by
  have apart : ∀ d : Char, d.toNat < 43 → c ≠ d := by
    rintro d low rfl
    omega
  have low : ∀ n : UInt32, n.toNat < 43 → c.val ≠ n := by
    rintro n small rfl
    exact absurd small (Nat.not_lt.mpr least)
  have inside : 32 ≤ c.val ∧ c.val ≤ 0xd7ff := by
    constructor
    · exact UInt32.le_iff_toNat_le.mpr (Nat.le_trans (by decide) least)
    · exact UInt32.le_iff_toNat_le.mpr (Nat.le_trans most (by decide))
  simp [isPlain, isSpace, isCharacter, other, apart '&' (by decide),
    apart quotationMark (by decide), low 32 (by decide), low 9 (by decide), low 10 (by decide),
    low 13 (by decide), inside]

theorem expand_plain {value : Text} (free : ∀ c ∈ value, c ≠ '&') :
    expand none value = some value := by
  induction value with
  | nil => rfl
  | cons c value ih =>
      have later := ih fun d member => free d (List.mem_cons_of_mem c member)
      have other := free c List.mem_cons_self
      simp [expand, other, later]

theorem scanValue_plain {value : Text} (plain : value.all isPlain = true) :
    scanValue (quotationMark :: (value ++ quotationMark :: rest)) = some (value, rest) := by
  have each : ∀ c ∈ value, c ≠ '<' ∧ c ≠ '&' ∧ c ≠ quotationMark ∧ blank c = c := by
    intro c member
    have test := List.all_eq_true.mp plain c member
    simp only [isPlain, Bool.and_eq_true, bne_iff_ne, Bool.or_eq_true, Bool.not_eq_true',
      beq_iff_eq] at test
    obtain ⟨⟨⟨⟨less, ampersand⟩, quote⟩, spaces⟩, -⟩ := test
    refine ⟨less, ampersand, quote, ?_⟩
    rcases spaces with printed | blanks
    · simp [blank, printed]
    · rw [blanks]
      decide
  have unquoted : value.all (· != quotationMark) = true := by
    rw [List.all_eq_true]
    exact fun c member => bne_iff_ne.mpr (each c member).2.2.1
  have stop : Stops (· != quotationMark) (quotationMark :: rest) := by simp [Stops]
  obtain ⟨front, back⟩ := takeWhile_stop unquoted stop
  have tagged : '<' ∉ value := fun member => (each _ member).1 rfl
  have blanks : value.map blank = value := by
    have same := List.map_congr_left fun c member => (each c member).2.2.2
    rw [same, List.map_id']
  have expanded := expand_plain fun c member => (each c member).2.1
  simp only [scanValue, true_or, if_true, front, back, if_neg tagged, expect, List.head?_cons,
    List.tail_cons, Option.bind_some, blanks, expanded, Option.map_some]

theorem length_attributes : attributes.length ≤ (attributes.flatMap attributeText).length := by
  induction attributes with
  | nil => exact Nat.le_refl 0
  | cons given attributes ih =>
      rw [List.flatMap_cons, List.length_append, attributeText, List.length_cons, List.length_cons]
      omega

/-- Attributes are read up to what is neither white space nor a name. -/
theorem scanAttributes_write {fuel : Nat} (writable : Writable attributes)
    (enough : attributes.length < fuel) (printed : Stops isSpace rest)
    (unnamed : Stops isNameStart rest) :
    scanAttributes fuel (attributes.flatMap attributeText ++ rest) = some (attributes, rest) := by
  induction attributes generalizing fuel with
  | nil =>
      cases fuel with
      | zero => cases enough
      | succ fuel =>
          rw [Stops] at unnamed
          rw [List.flatMap_nil, List.nil_append, scanAttributes, skipSpaces_stop printed, unnamed]
          rfl
  | cons given attributes ih =>
      cases fuel with
      | zero => cases enough
      | succ fuel =>
          have named := writable.names given List.mem_cons_self
          have plain := writable.values given List.mem_cons_self
          have distinct := List.nodup_cons.mp writable.distinct
          have later := @ih fuel
            ⟨fun other member => writable.names other (List.mem_cons_of_mem _ member),
              fun other member => writable.values other (List.mem_cons_of_mem _ member),
              distinct.2⟩ (Nat.lt_of_succ_lt_succ enough)
          obtain ⟨c, tail, shape, start⟩ := isName_start named
          have fresh : (attributes.any fun other => other.name == given.name) = false := by
            rw [List.any_eq_false]
            intro other member same
            exact distinct.1 (beq_iff_eq.mp same ▸ List.mem_map_of_mem member)
          have input : (given :: attributes).flatMap attributeText ++ rest =
              ' ' :: (given.name ++ '=' :: quotationMark :: (given.value ++
                quotationMark :: (attributes.flatMap attributeText ++ rest))) := by
            simp [attributeText]
          have skipped : ∀ back, skipSpaces (' ' :: (given.name ++ back)) =
              given.name ++ back := by
            intro back
            have stop : Stops isSpace (given.name ++ back) := by
              rw [shape]
              simpa [Stops] using not_space_of_nameStart start
            exact (@takeWhile_stop _ isSpace [' '] (by decide) stop).2
          have begins : ∀ back, ((given.name ++ back).head?).any isNameStart = true := by
            intro back
            rw [shape]
            simpa using start
          have equals : Stops isNameChar ('=' :: quotationMark :: (given.value ++
              quotationMark :: (attributes.flatMap attributeText ++ rest))) := stops_cons (by decide)
          have quoted : ∀ back, skipSpaces (quotationMark :: back) = quotationMark :: back :=
            fun back => skipSpaces_stop (stops_cons (by decide))
          have equal : ∀ back, skipSpaces ('=' :: back) = '=' :: back :=
            fun back => skipSpaces_stop (stops_cons (by decide))
          have space : isSpace ' ' = true := by decide
          rw [input, scanAttributes]
          simp only [skipped, begins, if_true, scanName_name named equals, Option.bind_eq_bind,
            Option.bind_some, equal, expect, List.head?_cons, List.tail_cons, quoted,
            scanValue_plain plain, later, fresh, Option.any_some, space, Bool.not_false,
            Bool.and_true]

/-! ## Tokens -/

def tagText (name : Text) (attributes : List Attribute) : Text :=
  '<' :: (name ++ attributes.flatMap attributeText)

theorem stops_attributes (stop : Stops isNameChar rest) :
    Stops isNameChar (attributes.flatMap attributeText ++ rest) := by
  cases attributes with
  | nil => exact stop
  | cons given attributes =>
      rw [List.flatMap_cons, attributeText, List.cons_append, List.cons_append, Stops,
        List.head?_cons, Option.any_some]
      decide

theorem scanToken_opens (named : isName name = true) :
    scanToken ('<' :: (name ++ rest)) = scanOpening (name ++ rest) := by
  obtain ⟨c, tail, rfl, start⟩ := isName_start named
  have other : c ≠ '/' := by
    rintro rfl
    revert start
    decide
  simp [scanToken, other]

theorem scanOpening_attributes (named : isName name = true) (writable : Writable attributes)
    (unnamed : Stops isNameChar rest) (printed : Stops isSpace rest)
    (unstarted : Stops isNameStart rest) :
    scanToken (tagText name attributes ++ rest) =
      if rest.head? = some '/' then
        (expect '>' rest.tail).map fun rest => (.opening name attributes true, rest)
      else (expect '>' rest).map fun rest => (.opening name attributes false, rest) := by
  have enough : attributes.length < (attributes.flatMap attributeText ++ rest).length + 1 := by
    have length := @length_attributes attributes
    rw [List.length_append]
    omega
  have scanned := scanAttributes_write writable enough printed unstarted
  rw [tagText, List.cons_append, List.append_assoc, scanToken_opens named, scanOpening,
    scanName_name named (stops_attributes unnamed)]
  simp only [Option.bind_eq_bind, Option.bind_some, scanned]
  by_cases empty : rest.head? = some '/'
  · simp only [empty, if_true]
    cases expect '>' rest.tail with
    | none => rfl
    | some after => rfl
  · simp only [empty, if_false]
    cases expect '>' rest with
    | none => rfl
    | some after => rfl

theorem scanToken_opening (named : isName name = true) (writable : Writable attributes) :
    scanToken (tagText name attributes ++ '>' :: rest) =
      some (.opening name attributes false, rest) := by
  have unnamed : Stops isNameChar ('>' :: rest) := stops_cons (by decide)
  have printed : Stops isSpace ('>' :: rest) := stops_cons (by decide)
  have unstarted : Stops isNameStart ('>' :: rest) := stops_cons (by decide)
  rw [scanOpening_attributes named writable unnamed printed unstarted]
  simp [expect]

theorem scanToken_empty (named : isName name = true) (writable : Writable attributes) :
    scanToken (tagText name attributes ++ '/' :: '>' :: rest) =
      some (.opening name attributes true, rest) := by
  have unnamed : Stops isNameChar ('/' :: '>' :: rest) := stops_cons (by decide)
  have printed : Stops isSpace ('/' :: '>' :: rest) := stops_cons (by decide)
  have unstarted : Stops isNameStart ('/' :: '>' :: rest) := stops_cons (by decide)
  rw [scanOpening_attributes named writable unnamed printed unstarted]
  simp [expect]

theorem scanToken_closing (named : isName name = true) :
    scanToken ('<' :: '/' :: (name ++ '>' :: rest)) = some (.closing name, rest) := by
  have unnamed : Stops isNameChar ('>' :: rest) := stops_cons (by decide)
  have printed : Stops isSpace ('>' :: rest) := stops_cons (by decide)
  simp [scanToken, scanClosing, scanName_name named unnamed, skipSpaces_stop printed, expect]

theorem endsSection_free {input : Text} (free : '>' ∉ input) : endsSection input = false := by
  induction input with
  | nil => rfl
  | cons c input ih =>
      have later := ih fun member => free (List.mem_cons_of_mem c member)
      have open_end : input.take 2 ≠ [']', '>'] := by
        intro same
        have member : '>' ∈ input.take 2 := by
          rw [same]
          exact List.mem_cons_of_mem _ List.mem_cons_self
        exact free (List.mem_cons_of_mem c (List.mem_of_mem_take member))
      simp [endsSection, later, open_end]

theorem scanToken_text (filled : characters ≠ []) :
    scanToken (escape characters ++ '<' :: rest) = some (.text characters, '<' :: rest) := by
  have untagged : (escape characters).all (· != '<') = true := by
    rw [List.all_eq_true]
    exact fun d member => bne_iff_ne.mpr (escape_free member).1
  have stop : Stops (· != '<') ('<' :: rest) := by simp [Stops]
  obtain ⟨front, back⟩ := takeWhile_stop untagged stop
  have section_free : endsSection (escape characters) = false :=
    endsSection_free fun member => (escape_free member).2 rfl
  have expanded := expand_escape characters []
  rw [List.append_nil] at expanded
  have head : (escape characters ++ '<' :: rest).head? ≠ some '<' := by
    cases written : escape characters with
    | nil => exact absurd written (escape_filled filled)
    | cons d others =>
        have member : d ∈ escape characters := by
          rw [written]
          exact List.mem_cons_self
        rw [List.cons_append, List.head?_cons]
        exact fun same => (escape_free member).1 (Option.some.inj same)
  rw [scanToken, if_neg head, scanText, front, back, section_free, if_neg Bool.false_ne_true,
    expanded]
  simp [expand]

/-! ## Line ends -/

theorem normalize_free {front : Text} (free : carriageReturn ∉ front) :
    normalize (front ++ rest) = front ++ normalize rest := by
  induction front with
  | nil => rfl
  | cons c front ih =>
      have other : c ≠ carriageReturn := fun same => free (same ▸ List.mem_cons_self)
      have later := ih fun member => free (List.mem_cons_of_mem c member)
      simp [normalize, other, later]

theorem normalize_eq (free : carriageReturn ∉ characters) : normalize characters = characters := by
  have plain := @normalize_free [] _ free
  rw [List.append_nil] at plain
  rw [plain, normalize, List.append_nil]

theorem not_mem_normalize (characters : Text) : carriageReturn ∉ normalize characters := by
  induction characters with
  | nil => simp [normalize]
  | cons c characters ih =>
      rw [normalize]
      by_cases back : c = carriageReturn
      · by_cases feed : characters.head? = some lineFeed
        · simpa [back, feed] using ih
        · have other : carriageReturn ≠ lineFeed := by decide
          simpa [back, feed, other] using ih
      · simpa [back, Ne.symm back] using ih

theorem normalize_characters (allowed : characters.all isCharacter = true) :
    (normalize characters).all isCharacter = true := by
  induction characters with
  | nil => rfl
  | cons c characters ih =>
      rw [List.all_cons, Bool.and_eq_true] at allowed
      have later := ih allowed.2
      have feed : isCharacter lineFeed = true := by decide
      rw [normalize]
      split_ifs
      · exact later
      · simp [feed, later]
      · simp [allowed.1, later]

theorem normalize_eq_iff : normalize characters = characters ↔ carriageReturn ∉ characters := by
  constructor
  · intro same
    rw [← same]
    exact not_mem_normalize characters
  · exact normalize_eq

theorem normalize_eq_nil : normalize characters = [] ↔ characters = [] := by
  constructor
  · intro none
    cases characters with
    | nil => rfl
    | cons c characters =>
        rw [normalize] at none
        by_cases back : c = carriageReturn
        · rw [if_pos back] at none
          by_cases feed : characters.head? = some lineFeed
          · rw [if_pos feed] at none
            cases characters with
            | nil => cases feed
            | cons d characters =>
                have same : d = lineFeed := Option.some.inj feed
                have other : lineFeed ≠ carriageReturn := by decide
                rw [normalize, same, if_neg other] at none
                cases none
          · rw [if_neg feed] at none
            cases none
        · rw [if_neg back] at none
          cases none
  · rintro rfl
    rfl

/-- Escaping neither makes nor hides a line feed at the front. -/
theorem escape_head (stop : rest.head? ≠ some lineFeed) :
    (escape characters ++ rest).head? = some lineFeed ↔ characters.head? = some lineFeed := by
  cases characters with
  | nil => simpa [escape] using stop
  | cons c characters =>
      rcases escapeChar_cases c with ⟨name, escaped⟩ | ⟨-, plain⟩
      · have other : '&' ≠ lineFeed := by decide
        simp [escape, escaped.written, escaped.apart, other]
      · simp [escape, plain]

theorem escapeChar_free (other : c ≠ carriageReturn) : carriageReturn ∉ escapeChar c := by
  rcases escapeChar_cases c with ⟨name, escaped⟩ | ⟨-, plain⟩
  · exact fun member => (escaped.still _ member).2.1 rfl
  · rw [plain, List.mem_singleton]
    exact Ne.symm other

/-- Line ends are made one before or after the characters are escaped. -/
theorem normalize_escape (stop : rest.head? ≠ some lineFeed) :
    normalize (escape characters ++ rest) = escape (normalize characters) ++ normalize rest := by
  induction characters with
  | nil => rfl
  | cons c characters ih =>
      have head := @escape_head rest characters stop
      by_cases back : c = carriageReturn
      · have plain : escapeChar c = [c] := by
          rw [back]
          decide
        have lines : escapeChar lineFeed = [lineFeed] := by decide
        rw [escape, List.flatMap_cons, plain, List.append_assoc, List.singleton_append, normalize,
          if_pos back, normalize, if_pos back]
        rw [escape] at ih head
        by_cases feed : characters.head? = some lineFeed
        · rw [if_pos feed, if_pos (head.mpr feed), ih]
        · rw [if_neg feed, if_neg (mt head.mp feed), ih, escape, escape, List.flatMap_cons, lines]
          rfl
      · rw [normalize, if_neg back, escape, List.flatMap_cons, List.append_assoc,
          normalize_free (escapeChar_free back), escape, List.flatMap_cons, List.append_assoc]
        rw [escape] at ih
        rw [ih, escape]

/-! ## Pieces of documents -/

/-- A piece whose line ends are one: it is scanned as some tokens, which build the nodes. -/
structure Written (piece : Text) (scanned : List Token) (nodes : List Node) : Prop where
  characters : piece.all isCharacter = true
  short : scanned.length ≤ piece.length
  tokens_eq : ∀ fuel rest, tokens (fuel + scanned.length) (piece ++ rest) =
    (tokens fuel rest).map (scanned ++ ·)
  build_eq : ∀ stack siblings rest, build stack siblings (scanned ++ rest) =
    build stack (siblings ++ nodes) rest

/-- A piece that tells nodes, wherever it stands. -/
def Tells (piece : Text) (nodes : List Node) : Prop :=
  ∃ normal scanned, (∀ rest, normalize (piece ++ rest) = normal ++ normalize rest) ∧
    Written normal scanned nodes

section Pieces

variable {piece first second normal normal' inner : Text} {scanned scanned' : List Token}
  {nodes nodes' : List Node} {token : Token} {node : Node}

theorem Written.append (writes : Written normal scanned nodes)
    (writes' : Written normal' scanned' nodes') :
    Written (normal ++ normal') (scanned ++ scanned') (nodes ++ nodes') := by
  constructor
  · rw [List.all_append, writes.characters, writes'.characters]
    rfl
  · have short := writes.short
    have short' := writes'.short
    rw [List.length_append, List.length_append]
    omega
  · intro fuel rest
    have sum : fuel + (scanned ++ scanned').length = fuel + scanned'.length + scanned.length := by
      rw [List.length_append]
      omega
    rw [sum, List.append_assoc, writes.tokens_eq, writes'.tokens_eq, Option.map_map]
    apply congrArg (Option.map · _)
    funext others
    exact (List.append_assoc _ _ _).symm
  · intro stack siblings rest
    rw [List.append_assoc, writes.build_eq, writes'.build_eq, List.append_assoc]

theorem tokens_single {fuel : Nat} {rest : Text} (filled : piece ≠ [])
    (scans : scanToken (piece ++ rest) = some (token, rest)) :
    tokens (fuel + 1) (piece ++ rest) = (tokens fuel rest).map ([token] ++ ·) := by
  have some : piece ++ rest ≠ [] := fun none => filled (List.append_eq_nil_iff.mp none).1
  rw [tokens, if_neg some, scans]
  rfl

theorem tells_nil : Tells [] [] := by
  refine ⟨[], [], fun rest => rfl, rfl, Nat.le_refl 0, ?_, ?_⟩
  · intro fuel rest
    cases found : tokens fuel rest with
    | none => simp [found]
    | some scanned => simp [found]
  · intro stack siblings rest
    rw [List.append_nil]
    rfl

theorem Tells.append (tells : Tells first nodes) (tells' : Tells second nodes') :
    Tells (first ++ second) (nodes ++ nodes') := by
  obtain ⟨normal, scanned, lines, writes⟩ := tells
  obtain ⟨normal', scanned', lines', writes'⟩ := tells'
  refine ⟨normal ++ normal', scanned ++ scanned', ?_, writes.append writes'⟩
  intro rest
  rw [List.append_assoc, lines, lines', List.append_assoc]

end Pieces

/-! ## Elements -/

section Elements

variable {nodes : List Node} {inner : Text}

/-- What a tag is made of keeps its line and is allowed in a document. -/
theorem isNameChar_still (named : isNameChar c = true) : c ≠ carriageReturn := by
  rintro rfl
  revert named
  decide

theorem isPlain_still (plain : isPlain c = true) : c ≠ carriageReturn := by
  rintro rfl
  revert plain
  decide

theorem isName_still (named : isName name = true) :
    ∀ c ∈ name, c ≠ carriageReturn ∧ isCharacter c = true := by
  rw [isName, Bool.and_eq_true, Bool.and_eq_true] at named
  intro c member
  exact ⟨isNameChar_still (List.all_eq_true.mp named.1.2 c member),
    List.all_eq_true.mp named.2 c member⟩

theorem attributes_still (writable : Writable attributes) :
    ∀ c ∈ attributes.flatMap attributeText, c ≠ carriageReturn ∧ isCharacter c = true := by
  intro c member
  obtain ⟨given, listed, inside⟩ := List.mem_flatMap.mp member
  simp only [attributeText, List.mem_cons, List.mem_append, List.not_mem_nil, or_false] at inside
  rcases inside with rfl | name | rfl | rfl | value | rfl
  · decide
  · exact isName_still (writable.names given listed) c name
  · decide
  · decide
  · have plain := List.all_eq_true.mp (writable.values given listed) c value
    exact ⟨isPlain_still plain, isCharacter_of_plain plain⟩
  · decide

theorem tagText_still (named : isName name = true) (writable : Writable attributes) :
    ∀ c ∈ tagText name attributes, c ≠ carriageReturn ∧ isCharacter c = true := by
  intro c member
  rw [tagText, List.mem_cons, List.mem_append] at member
  rcases member with rfl | name | inside
  · decide
  · exact isName_still named c name
  · exact attributes_still writable c inside

def closeText (name : Text) : Text := '<' :: '/' :: (name ++ ['>'])

theorem closeText_still (named : isName name = true) :
    ∀ c ∈ closeText name, c ≠ carriageReturn ∧ isCharacter c = true := by
  intro c member
  simp only [closeText, List.mem_cons, List.mem_append, List.not_mem_nil, or_false] at member
  rcases member with rfl | rfl | inside | rfl
  · decide
  · decide
  · exact isName_still named c inside
  · decide

theorem normalize_still {piece : Text}
    (still : ∀ c ∈ piece, c ≠ carriageReturn ∧ isCharacter c = true) :
    normalize (piece ++ rest) = piece ++ normalize rest :=
  normalize_free fun member => (still _ member).1 rfl

theorem all_still {piece : Text}
    (still : ∀ c ∈ piece, c ≠ carriageReturn ∧ isCharacter c = true) :
    piece.all isCharacter = true :=
  List.all_eq_true.mpr fun c member => (still c member).2

def openText (name : Text) (attributes : List Attribute) : Text := tagText name attributes ++ ['>']

theorem openText_still (named : isName name = true) (writable : Writable attributes) :
    ∀ c ∈ openText name attributes, c ≠ carriageReturn ∧ isCharacter c = true := by
  intro c member
  rcases List.mem_append.mp member with inside | last
  · exact tagText_still named writable c inside
  · rw [List.mem_singleton.mp last]
    decide

theorem scanToken_openText (named : isName name = true) (writable : Writable attributes) :
    scanToken (openText name attributes ++ rest) = some (.opening name attributes false, rest) := by
  rw [openText, List.append_assoc]
  exact scanToken_opening named writable

theorem scanToken_closeText (named : isName name = true) :
    scanToken (closeText name ++ rest) = some (.closing name, rest) := by
  rw [closeText, List.cons_append, List.cons_append, List.append_assoc]
  exact scanToken_closing named

theorem tells_empty (named : isName name = true) (writable : Writable attributes) :
    Tells (tagText name attributes ++ ['/', '>']) [.element name attributes []] := by
  have still : ∀ c ∈ tagText name attributes ++ ['/', '>'],
      c ≠ carriageReturn ∧ isCharacter c = true := by
    intro c member
    simp only [List.mem_append, List.mem_cons, List.not_mem_nil, or_false] at member
    rcases member with inside | rfl | rfl
    · exact tagText_still named writable c inside
    · decide
    · decide
  refine ⟨_, [.opening name attributes true], fun rest => normalize_still still, ?_⟩
  constructor
  · exact all_still still
  · simp only [List.length_append, List.length_cons, List.length_nil]
    omega
  · intro fuel rest
    apply tokens_single
    · exact List.append_ne_nil_of_right_ne_nil _ (List.cons_ne_nil _ _)
    · rw [List.append_assoc]
      exact scanToken_empty named writable
  · intro stack siblings rest
    rfl

theorem Tells.element (named : isName name = true) (writable : Writable attributes)
    (tells : Tells inner nodes) :
    Tells (openText name attributes ++ (inner ++ closeText name))
      [.element name attributes nodes] := by
  obtain ⟨normal, scanned, lines, writes⟩ := tells
  refine ⟨openText name attributes ++ (normal ++ closeText name),
    [.opening name attributes false] ++ (scanned ++ [.closing name]), ?_, ?_⟩
  · intro rest
    rw [List.append_assoc, normalize_still (openText_still named writable), List.append_assoc, lines,
      normalize_still (closeText_still named), List.append_assoc, List.append_assoc]
  constructor
  · rw [List.all_append, List.all_append, all_still (openText_still named writable),
      writes.characters, all_still (closeText_still named)]
    rfl
  · have short := writes.short
    simp only [openText, closeText, List.length_append, List.length_cons, List.length_nil]
    omega
  · intro fuel rest
    have sum : fuel +
        ([Token.opening name attributes false] ++ (scanned ++ [Token.closing name])).length =
        fuel + 1 + scanned.length + 1 := by
      simp only [List.length_append, List.length_cons, List.length_nil]
      omega
    have opened : openText name attributes ≠ [] :=
      List.append_ne_nil_of_right_ne_nil _ (List.cons_ne_nil _ _)
    have closed : closeText name ≠ [] := List.cons_ne_nil _ _
    rw [sum, List.append_assoc, tokens_single opened (scanToken_openText named writable),
      List.append_assoc, writes.tokens_eq, tokens_single closed (scanToken_closeText named),
      Option.map_map, Option.map_map]
    apply congrArg (Option.map · _)
    funext others
    simp
  · intro stack siblings rest
    rw [List.append_assoc, List.append_assoc, List.singleton_append, build, writes.build_eq,
      List.singleton_append, build, if_pos rfl]
    rfl

def textNodes (characters : Text) : List Node :=
  if characters = [] then [] else [.text characters]

theorem characters_textNodes (characters : Text) :
    Node.characters (.element name attributes (textNodes characters)) = characters := by
  by_cases empty : characters = []
  · simp [Node.characters, Node.children, textNodes, empty]
  · simp [Node.characters, Node.children, textNodes, empty]

/-- Escaped characters in an element are its text, with the line ends made one. -/
theorem tells_text (named : isName name = true) (writable : Writable attributes)
    (allowed : characters.all isCharacter = true) :
    Tells (openText name attributes ++ (escape characters ++ closeText name))
      [.element name attributes (textNodes (normalize characters))] := by
  by_cases empty : characters = []
  · rw [empty]
    exact tells_nil.element named writable
  have filled : normalize characters ≠ [] := mt normalize_eq_nil.mp empty
  refine ⟨openText name attributes ++ (escape (normalize characters) ++ closeText name),
    [.opening name attributes false, .text (normalize characters), .closing name], ?_, ?_⟩
  · intro rest
    have stop : (closeText name ++ rest).head? ≠ some lineFeed := by
      rw [closeText, List.cons_append, List.head?_cons]
      decide
    rw [List.append_assoc, normalize_still (openText_still named writable), List.append_assoc,
      normalize_escape stop, normalize_still (closeText_still named), List.append_assoc,
      List.append_assoc]
  constructor
  · rw [List.all_append, List.all_append, all_still (openText_still named writable),
      all_still (closeText_still named), escape_characters (normalize_characters allowed)]
    rfl
  · simp only [openText, closeText, List.length_append, List.length_cons, List.length_nil]
    omega
  · intro fuel rest
    have opened : openText name attributes ≠ [] :=
      List.append_ne_nil_of_right_ne_nil _ (List.cons_ne_nil _ _)
    have closed : closeText name ≠ [] := List.cons_ne_nil _ _
    have written := escape_filled filled
    have scans : scanToken (escape (normalize characters) ++ (closeText name ++ rest)) =
        some (.text (normalize characters), closeText name ++ rest) := scanToken_text filled
    have sum : fuel + 3 = fuel + 1 + 1 + 1 := rfl
    show tokens (fuel + 3) _ = _
    rw [sum, List.append_assoc, tokens_single opened (scanToken_openText named writable),
      List.append_assoc, tokens_single written scans,
      tokens_single closed (scanToken_closeText named), Option.map_map, Option.map_map]
    rfl
  · intro stack siblings rest
    rw [textNodes, if_neg filled]
    simp [build]

end Elements

/-! ## Documents -/

section Documents

variable {piece : Text} {root : Node} {children : List Node}

/-- The declaration that is read: version 1.0, UTF-8, standalone. -/
def declaration : List Attribute :=
  [⟨['v', 'e', 'r', 's', 'i', 'o', 'n'], ['1', '.', '0']⟩,
    ⟨['e', 'n', 'c', 'o', 'd', 'i', 'n', 'g'], ['U', 'T', 'F', '-', '8']⟩,
    ⟨['s', 't', 'a', 'n', 'd', 'a', 'l', 'o', 'n', 'e'], ['y', 'e', 's']⟩]

def declarationText : Text :=
  declarationStart ++ (declaration.flatMap attributeText ++ ['?', '>'])

theorem declaration_writable : Writable declaration := by
  constructor
  · decide
  · decide
  · decide

theorem skipDeclaration_text (rest : Text) : skipDeclaration (declarationText ++ rest) = some rest := by
  have starts : declarationStart.isPrefixOf (declarationText ++ rest) = true := by
    rw [List.isPrefixOf_iff_prefix, declarationText, List.append_assoc]
    exact List.prefix_append _ _
  have dropped : (declarationText ++ rest).drop 5 =
      declaration.flatMap attributeText ++ '?' :: '>' :: rest := by
    rw [declarationText, List.append_assoc, List.append_assoc]
    rfl
  have enough : declaration.length < (declarationText ++ rest).length + 1 := by
    rw [List.length_append]
    exact Nat.lt_succ_of_le (Nat.le_add_right_of_le (by decide))
  have printed : Stops isSpace ('?' :: '>' :: rest) := stops_cons (by decide)
  have unnamed : Stops isNameStart ('?' :: '>' :: rest) := stops_cons (by decide)
  have version : declared declaration = true := by decide
  rw [skipDeclaration, if_pos starts, dropped]
  simp only [scanAttributes_write declaration_writable enough printed unnamed,
    Option.bind_eq_bind, Option.bind_some, expect, List.head?_cons, if_true, List.tail_cons, version]

theorem read_document (tells : Tells piece [.element name attributes children]) :
    read (declarationText ++ piece) = some (.element name attributes children) := by
  obtain ⟨normal, scanned, lines, writes⟩ := tells
  have still : ∀ c ∈ declarationText, c ≠ carriageReturn ∧ isCharacter c = true :=
    forall_of_all (by decide)
  have input : normalize (declarationText ++ piece) = declarationText ++ normal := by
    have whole := lines []
    rw [List.append_nil, normalize, List.append_nil] at whole
    rw [normalize_still still, whole]
  have allowed : (declarationText ++ normal).all isCharacter = true := by
    rw [List.all_append, all_still still, writes.characters]
    rfl
  have ended : ∀ fuel, tokens fuel [] = some [] := by
    intro fuel
    cases fuel with
    | zero => rfl
    | succ fuel => rfl
  have scans : tokens normal.length normal = some scanned := by
    have whole := writes.tokens_eq (normal.length - scanned.length) []
    rw [Nat.sub_add_cancel writes.short, List.append_nil, ended, Option.map_some, List.append_nil]
      at whole
    exact whole
  have builds : build [] [] scanned = some [.element name attributes children] := by
    have whole := writes.build_eq [] [] []
    rw [List.append_nil, List.nil_append] at whole
    exact whole
  rw [read]
  simp only [input, allowed, if_true, skipDeclaration_text, Option.bind_eq_bind, Option.bind_some,
    scans, builds]
  rfl

end Documents

end Xml

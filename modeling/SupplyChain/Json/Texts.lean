import Mathlib
import SupplyChain.Json.Numbers

/-!
Values of ECMAScript and their JSON texts. A text says where each value in it
ends, so distinct values have distinct texts; a canonical text sorts the members
of objects first, so it tells two values apart up to their order.
-/

namespace Json

/-- What a variable can hold, functions and symbols apart. -/
inductive Value
  | undefined
  | null
  | boolean (value : Bool)
  | number (value : Number)
  | text (value : String)
  | array (items : List Value)
  | object (members : List (String × Value))

/-! ## Texts -/

def hexDigit (value : Nat) : Char :=
  if value < 10 then Char.ofNat (48 + value) else Char.ofNat (87 + value)

def escape (c : Char) : List Char :=
  if c == '"' then ['\\', '"']
  else if c == '\\' then ['\\', '\\']
  else if c.val == 8 then ['\\', 'b']
  else if c.val == 9 then ['\\', 't']
  else if c.val == 10 then ['\\', 'n']
  else if c.val == 12 then ['\\', 'f']
  else if c.val == 13 then ['\\', 'r']
  else if c.val < 32 then
    ['\\', 'u', '0', '0', hexDigit (c.toNat / 16), hexDigit (c.toNat % 16)]
  else [c]

/-- `JSON.stringify` of a string. -/
def quote (value : String) : List Char :=
  '"' :: (value.toList.flatMap escape ++ ['"'])

mutual

/-- `JSON.stringify` of a value, its members in their own order. -/
def stringify : Value → List Char
  | .undefined => ['n', 'u', 'l', 'l']
  | .null => ['n', 'u', 'l', 'l']
  | .boolean value => if value then ['t', 'r', 'u', 'e'] else ['f', 'a', 'l', 's', 'e']
  | .number value => value.text
  | .text value => quote value
  | .array items => '[' :: stringifyItems [] items
  | .object members => '\x7b' :: stringifyMembers [] members

def stringifyItems (before : List Char) : List Value → List Char
  | [] => [']']
  | item :: rest => before ++ (stringify item ++ stringifyItems [','] rest)

def stringifyMembers (before : List Char) : List (String × Value) → List Char
  | [] => ['\x7d']
  | (name, value) :: rest =>
      before ++ (quote name ++ ':' :: (stringify value ++ stringifyMembers [','] rest))

end

mutual

/-- The values that a JSON text can denote. -/
def Value.IsJson : Value → Prop
  | .undefined => False
  | .null => True
  | .boolean _ => True
  | .number value => value ≠ .notFinite
  | .text _ => True
  | .array items => ItemsAreJson items
  | .object members => MembersAreJson members

def ItemsAreJson : List Value → Prop
  | [] => True
  | item :: rest => item.IsJson ∧ ItemsAreJson rest

def MembersAreJson : List (String × Value) → Prop
  | [] => True
  | (_, value) :: rest => value.IsJson ∧ MembersAreJson rest

end

/-! ## Strings are read back -/

/-- The character that an escape stands for, and the rest. -/
def afterBackslash : List Char → Option (Char × List Char)
  | 'u' :: '0' :: '0' :: high :: low :: rest =>
      let digit (c : Char) := if c.isDigit then c.toNat - 48 else c.toNat - 87
      some (Char.ofNat (digit high * 16 + digit low), rest)
  | 'b' :: rest => some (Char.ofNat 8, rest)
  | 't' :: rest => some (Char.ofNat 9, rest)
  | 'n' :: rest => some (Char.ofNat 10, rest)
  | 'f' :: rest => some (Char.ofNat 12, rest)
  | 'r' :: rest => some (Char.ofNat 13, rest)
  | c :: rest => some (c, rest)
  | [] => none

/-- The first character of the inside of a string, and the rest; none at the
quote that ends it. -/
def unescape : List Char → Option (Char × List Char)
  | '\\' :: rest => afterBackslash rest
  | '"' :: _ => none
  | c :: rest => some (c, rest)
  | [] => none

theorem unescape_control : ∀ code < 32, ∀ rest : List Char,
    unescape (escape (Char.ofNat code) ++ rest) = some (Char.ofNat code, rest) := by
  intro code below rest
  interval_cases code <;> rfl

theorem escape_printable {c : Char} (quotes : c ≠ '"') (backslash : c ≠ '\\')
    (printable : ¬ c.toNat < 32) : escape c = [c] := by
  have code : ¬ c.val < 32 := fun below => printable (UInt32.lt_iff_toNat_lt.mp below)
  have apart : ∀ n : UInt32, n < 32 → (c.val == n) = false := by
    intro n below
    apply beq_false_of_ne
    rintro rfl
    exact code below
  simp only [escape, beq_false_of_ne quotes, beq_false_of_ne backslash,
    apart 8 (by decide), apart 9 (by decide), apart 10 (by decide), apart 12 (by decide),
    apart 13 (by decide), code, Bool.false_eq_true, if_false]

theorem unescape_escape (c : Char) (rest : List Char) :
    unescape (escape c ++ rest) = some (c, rest) := by
  by_cases control : c.toNat < 32
  · rw [← Char.ofNat_toNat c]
    exact unescape_control c.toNat control rest
  by_cases quotes : c = '"'
  · subst quotes
    rfl
  by_cases backslash : c = '\\'
  · subst backslash
    rfl
  rw [escape_printable quotes backslash control, List.singleton_append, unescape]
  · exact backslash
  · exact quotes

theorem unescape_quote (rest : List Char) : unescape ('"' :: rest) = none := by
  unfold unescape
  rfl

theorem escaped_eq {a b : List Char} {rest rest' : List Char}
    (same : a.flatMap escape ++ '"' :: rest = b.flatMap escape ++ '"' :: rest') :
    a = b ∧ rest = rest' := by
  induction a generalizing b with
  | nil =>
      cases b with
      | nil => exact ⟨rfl, (List.cons.inj same).2⟩
      | cons c b =>
          have read := congrArg unescape same
          rw [List.flatMap_cons, List.append_assoc, unescape_escape, List.flatMap_nil,
            List.nil_append, unescape_quote] at read
          cases read
  | cons c a ih =>
      cases b with
      | nil =>
          have read := congrArg unescape same
          rw [List.flatMap_cons, List.append_assoc, unescape_escape, List.flatMap_nil,
            List.nil_append, unescape_quote] at read
          cases read
      | cons d b =>
          have read := congrArg unescape same
          rw [List.flatMap_cons, List.append_assoc, unescape_escape, List.flatMap_cons,
            List.append_assoc, unescape_escape, Option.some.injEq, Prod.mk.injEq] at read
          obtain ⟨chars, rests⟩ := ih read.2
          exact ⟨by rw [read.1, chars], rests⟩

theorem quote_eq {a b : String} {rest rest' : List Char}
    (same : quote a ++ rest = quote b ++ rest') : a = b ∧ rest = rest' := by
  simp only [quote, List.cons_append, List.append_assoc, List.cons.injEq, true_and,
    List.nil_append] at same
  obtain ⟨chars, rests⟩ := escaped_eq same
  exact ⟨String.toList_inj.mp chars, rests⟩

/-! ## Values are read back -/

/-- What follows a value in a text: nothing, or the next separator or bracket. -/
def Closing (rest : List Char) : Prop :=
  ∀ c tail, rest = c :: tail → c = ',' ∨ c = ']' ∨ c = '\x7d'

/-- The kinds of values as their texts begin. -/
def opens (value : Value) (c : Char) : Prop :=
  match value with
  | .undefined => False
  | .null => c = 'n'
  | .boolean value => c = if value then 't' else 'f'
  | .number _ => c.isDigit = true ∨ c = '-'
  | .text _ => c = '"'
  | .array _ => c = '['
  | .object _ => c = '\x7b'

theorem stringify_opens {value : Value} (json : value.IsJson) :
    ∃ c rest, stringify value = c :: rest ∧ opens value c := by
  cases value with
  | undefined => exact json.elim
  | null => exact ⟨'n', _, by rw [stringify], rfl⟩
  | boolean value => cases value <;> exact ⟨_, _, rfl, rfl⟩
  | number value =>
      obtain ⟨c, rest, shape, kind⟩ := Number.text_head json
      exact ⟨c, rest, by rw [stringify, shape], kind⟩
  | text value => exact ⟨'"', _, by rw [stringify, quote], rfl⟩
  | array items => exact ⟨'[', _, by rw [stringify], rfl⟩
  | object members => exact ⟨'\x7b', _, by rw [stringify], rfl⟩

def kind : Value → Nat
  | .undefined => 0
  | .null => 1
  | .boolean _ => 2
  | .number _ => 3
  | .text _ => 4
  | .array _ => 5
  | .object _ => 6

/-- The kind of the value whose text begins with a character. -/
def kindOf (c : Char) : Nat :=
  if c = 'n' then 1
  else if c = 't' ∨ c = 'f' then 2
  else if c = '"' then 4
  else if c = '[' then 5
  else if c = '\x7b' then 6
  else 3

theorem kindOf_opens {value : Value} {c : Char} (starts : opens value c) : kindOf c = kind value := by
  cases value with
  | undefined => exact starts.elim
  | boolean value =>
      cases value <;> cases starts <;> rfl
  | number value =>
      rcases starts with digit | rfl
      · have apart : ∀ {d : Char}, d.isDigit = false → c ≠ d := ne_of_isDigit digit
        simp [kindOf, kind, apart (d := 'n') rfl, apart (d := 't') rfl, apart (d := 'f') rfl,
          apart (d := '"') rfl, apart (d := '[') rfl, apart (d := '\x7b') rfl]
      · rfl
  | _ =>
      cases starts
      rfl

theorem same_kind {p q : Value} (json : p.IsJson) (json' : q.IsJson) {rest rest' : List Char}
    (same : stringify p ++ rest = stringify q ++ rest') : kind p = kind q := by
  obtain ⟨c, more, shape, starts⟩ := stringify_opens json
  obtain ⟨c', more', shape', starts'⟩ := stringify_opens json'
  rw [shape, shape', List.cons_append, List.cons_append] at same
  obtain ⟨heads, -⟩ := List.cons.inj same
  rw [← kindOf_opens starts, heads, kindOf_opens starts']

theorem closing_cons {c : Char} (rest : List Char) (closes : c = ',' ∨ c = ']' ∨ c = '\x7d') :
    Closing (c :: rest) := by
  rintro d tail same
  cases same
  exact closes

theorem closing_items (items : List Value) (rest : List Char) :
    Closing (stringifyItems [','] items ++ rest) := by
  cases items with
  | nil => exact closing_cons rest (by simp)
  | cons item items => exact closing_cons _ (by simp)

theorem closing_members (members : List (String × Value)) (rest : List Char) :
    Closing (stringifyMembers [','] members ++ rest) := by
  cases members with
  | nil => exact closing_cons rest (by simp)
  | cons member members => exact closing_cons _ (by simp)

theorem not_isNumberChar_of_closing {rest : List Char} (closing : Closing rest) (c : Char)
    (tail : List Char) (shape : rest = c :: tail) : Number.isNumberChar c = false := by
  rcases closing c tail shape with rfl | rfl | rfl <;> rfl

theorem items_end {before : List Char} (separated : before = [] ∨ before = [',']) {item : Value}
    (json : item.IsJson) {rest rest' : List Char}
    (same : ']' :: rest = before ++ (stringify item ++ rest')) : False := by
  rcases separated with rfl | rfl
  · obtain ⟨c, more, shape, kind⟩ := stringify_opens json
    rw [shape, List.nil_append, List.cons_append] at same
    obtain ⟨rfl, -⟩ := List.cons.inj same
    cases item <;> simp [opens] at kind
    split at kind <;> cases kind
  · cases (List.cons.inj same).1

mutual

theorem stringify_eq : ∀ (p : Value) {q : Value}, p.IsJson → q.IsJson →
    ∀ {rest rest' : List Char}, Closing rest → Closing rest' →
      stringify p ++ rest = stringify q ++ rest' → p = q ∧ rest = rest'
  | .undefined, _, json, _, _, _, _, _, _ => json.elim
  | .null, q, json, json', rest, rest', _, _, same => by
      obtain rfl : q = .null := by
        have kinds := same_kind json json' same
        cases q <;> simp [kind] at kinds ⊢
      exact ⟨rfl, List.append_cancel_left same⟩
  | .boolean value, q, json, json', rest, rest', _, _, same => by
      obtain ⟨value', rfl⟩ : ∃ value', q = .boolean value' := by
        have kinds := same_kind json json' same
        cases q <;> simp [kind] at kinds ⊢
      cases value <;> cases value' <;> simp [stringify] at same ⊢
      · exact same
      · exact same
  | .number value, q, json, json', rest, rest', closing, closing', same => by
      obtain ⟨value', rfl⟩ : ∃ value', q = .number value' := by
        have kinds := same_kind json json' same
        cases q <;> simp [kind] at kinds ⊢
      rw [stringify, stringify] at same
      obtain ⟨numbers, rests⟩ := Number.text_eq json json' (not_isNumberChar_of_closing closing)
        (not_isNumberChar_of_closing closing') same
      exact ⟨by rw [numbers], rests⟩
  | .text value, q, json, json', rest, rest', _, _, same => by
      obtain ⟨value', rfl⟩ : ∃ value', q = .text value' := by
        have kinds := same_kind json json' same
        cases q <;> simp [kind] at kinds ⊢
      rw [stringify, stringify] at same
      obtain ⟨texts, rests⟩ := quote_eq same
      exact ⟨by rw [texts], rests⟩
  | .array items, q, json, json', rest, rest', _, _, same => by
      obtain ⟨items', rfl⟩ : ∃ items', q = .array items' := by
        have kinds := same_kind json json' same
        cases q <;> simp [kind] at kinds ⊢
      rw [stringify, stringify] at same
      obtain ⟨equal, rests⟩ := stringifyItems_eq items json json' (Or.inl rfl)
        (List.cons.inj same).2
      exact ⟨by rw [equal], rests⟩
  | .object members, q, json, json', rest, rest', _, _, same => by
      obtain ⟨members', rfl⟩ : ∃ members', q = .object members' := by
        have kinds := same_kind json json' same
        cases q <;> simp [kind] at kinds ⊢
      rw [stringify, stringify] at same
      obtain ⟨equal, rests⟩ := stringifyMembers_eq members json json' (Or.inl rfl)
        (List.cons.inj same).2
      exact ⟨by rw [equal], rests⟩

theorem stringifyItems_eq : ∀ (items : List Value) {items' : List Value}, ItemsAreJson items →
    ItemsAreJson items' → ∀ {before rest rest' : List Char}, (before = [] ∨ before = [',']) →
      stringifyItems before items ++ rest = stringifyItems before items' ++ rest' →
      items = items' ∧ rest = rest'
  | [], [], _, _, _, _, _, _, same => ⟨rfl, (List.cons.inj same).2⟩
  | [], item :: items, _, json, before, rest, rest', separated, same => by
      rw [stringifyItems, stringifyItems, List.append_assoc, List.append_assoc] at same
      exact (items_end separated json.1 same).elim
  | item :: items, [], json, _, before, rest, rest', separated, same => by
      rw [stringifyItems, stringifyItems, List.append_assoc, List.append_assoc] at same
      exact (items_end separated json.1 same.symm).elim
  | item :: items, item' :: items', json, json', before, rest, rest', _, same => by
      rw [stringifyItems, stringifyItems, List.append_assoc, List.append_assoc,
        List.append_assoc, List.append_assoc] at same
      obtain ⟨values, tails⟩ := stringify_eq item json.1 json'.1 (closing_items items rest)
        (closing_items items' rest') (List.append_cancel_left same)
      obtain ⟨others, rests⟩ := stringifyItems_eq items json.2 json'.2 (Or.inr rfl) tails
      exact ⟨by rw [values, others], rests⟩

theorem stringifyMembers_eq : ∀ (members : List (String × Value))
    {members' : List (String × Value)}, MembersAreJson members → MembersAreJson members' →
    ∀ {before rest rest' : List Char}, (before = [] ∨ before = [',']) →
      stringifyMembers before members ++ rest = stringifyMembers before members' ++ rest' →
      members = members' ∧ rest = rest'
  | [], [], _, _, _, _, _, _, same => ⟨rfl, (List.cons.inj same).2⟩
  | [], (name, value) :: members, _, _, before, rest, rest', separated, same => by
      rcases separated with rfl | rfl <;> cases (List.cons.inj same).1
  | (name, value) :: members, [], _, _, before, rest, rest', separated, same => by
      rcases separated with rfl | rfl <;> cases (List.cons.inj same).1
  | (name, value) :: members, (name', value') :: members', json, json', before, rest, rest', _,
      same => by
      rw [stringifyMembers, stringifyMembers, List.append_assoc, List.append_assoc,
        List.append_assoc, List.append_assoc] at same
      obtain ⟨names, values⟩ := quote_eq (List.append_cancel_left same)
      rw [List.cons_append, List.cons_append, List.append_assoc, List.append_assoc] at values
      obtain ⟨equal, tails⟩ := stringify_eq value json.1 json'.1 (closing_members members rest)
        (closing_members members' rest') (List.cons.inj values).2
      obtain ⟨others, rests⟩ := stringifyMembers_eq members json.2 json'.2 (Or.inr rfl) tails
      exact ⟨by rw [names, equal, others], rests⟩

end

theorem stringify_injective {p q : Value} (json : p.IsJson) (json' : q.IsJson)
    (same : stringify p = stringify q) : p = q := by
  have none : Closing [] := fun c tail shape => nomatch shape
  exact (stringify_eq p json json' none none (by rw [same])).1

/-! ## The order of members -/

/-- The UTF-16 code units of a string. -/
def codeUnits (value : String) : List Nat :=
  value.toList.flatMap fun c =>
    if c.toNat < 65536 then [c.toNat]
    else [55296 + (c.toNat - 65536) / 1024, 56320 + (c.toNat - 65536) % 1024]

/-- Members in the order of `Object.keys(record).sort()`. -/
def sortMembers {α : Type} (members : List (String × α)) : List (String × α) :=
  members.insertionSort fun a b => codeUnits a.1 ≤ codeUnits b.1

def Value.isUndefined : Value → Bool
  | .undefined => true
  | _ => false

theorem membersAreJson_iff {members : List (String × Value)} :
    MembersAreJson members ↔ ∀ entry ∈ members, entry.2.IsJson := by
  induction members with
  | nil => simp [MembersAreJson]
  | cons entry members ih => simp [MembersAreJson, ih]

end Json

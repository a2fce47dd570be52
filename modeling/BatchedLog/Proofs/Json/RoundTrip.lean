import BatchedLog.Json.Reader
import BatchedLog.Json.Text
import BatchedLog.Proofs.Json.Nesting
import Mathlib.Data.List.Basic

/-!
# Reading back compact text

The text of a string is read back as that string, whatever characters it has, and that of an integer
of at most 64 bits as that integer. A list is read back item by item and an object field by field,
so every value without floats is read back from its text where its nesting is allowed, and no two
such values have the same text. No compact text of a string has a control character in it, so none
has a line break.
-/

namespace BatchedLog

/-- What is read up to the first character of another kind. -/
theorem span_of_stop {p : Char → Bool} {word rest : List Char} (inside : ∀ c ∈ word, p c = true)
    (outside : ∀ c ∈ rest.head?, p c = false) :
    (word ++ rest).takeWhile p = word ∧ (word ++ rest).dropWhile p = rest := by
  rw [List.takeWhile_append_of_pos inside, List.dropWhile_append_of_pos inside]
  cases rest with
  | nil => exact ⟨List.append_nil word, rfl⟩
  | cons c rest =>
    have hc : ¬ p c = true := by simp [outside c rfl]
    rw [List.takeWhile_cons_of_neg hc, List.dropWhile_cons_of_neg hc, List.append_nil]
    exact ⟨rfl, rfl⟩

namespace Json

/-! ## Escapes -/

theorem hex_of_lt {n : Nat} (h : n < 16) : (Text.hex n).toList = [Nat.digitChar n] := by
  rw [Text.hex, String.toList_ofList, Nat.toDigits_of_lt_base h]

theorem hex_of_ge {n : Nat} (h : 16 ≤ n) (h' : n < 32) :
    (Text.hex n).toList = [Nat.digitChar (n / 16), Nat.digitChar (n % 16)] := by
  rw [Text.hex, String.toList_ofList, Nat.toDigits_of_base_le (by omega) h,
    Nat.toDigits_of_lt_base (by omega)]
  rfl

theorem hexValue?_digitChar : ∀ n < 16, hexValue? (Nat.digitChar n) = some n := by decide

/-- A character that stands for itself is not one that the reader of strings looks for. -/
theorem of_escape?_eq_none {c : Char} (h : escape? c = none) :
    c ≠ '"' ∧ c ≠ '\\' ∧ 0x20 ≤ c.toNat := by
  unfold escape? at h
  repeat' split at h
  case isFalse => exact ⟨‹_›, ‹_›, by omega⟩
  all_goals cases h

theorem hexValue?_zero : hexValue? '0' = some 0 := by decide

/-- The reader of what follows a backslash, at a code of four hexadecimal digits. -/
theorem readEscape_unicode {a b : Char} {m n : Nat} (ha : hexValue? a = some m)
    (hb : hexValue? b = some n) (h : m * 16 + n < 0xd800) (rest : List Char) :
    readEscape ('u' :: '0' :: '0' :: a :: b :: rest) = .ok (Char.ofNat (m * 16 + n), rest) := by
  have hlow : ¬ (0xdc00 ≤ m * 16 + n ∧ m * 16 + n ≤ 0xdfff) := by omega
  have hhigh : ¬ (0xd800 ≤ m * 16 + n ∧ m * 16 + n ≤ 0xdbff) := by omega
  simp only [readEscape, readHex4, hexValue?_zero, ha, hb, Read.andThen, Nat.zero_mul,
    Nat.zero_add, if_neg hlow, if_neg hhigh]

/-- Every escape is a backslash and a code that is read back as the character. -/
theorem of_escape?_eq_some {c : Char} {e : String} (h : escape? c = some e) :
    ∃ code, e.toList = '\\' :: code ∧ '\n' ∉ code ∧
      ∀ rest, readEscape (code ++ rest) = .ok (c, rest) := by
  unfold escape? at h
  split at h
  · subst c
    cases h
    exact ⟨['"'], rfl, by decide, fun _ => rfl⟩
  split at h
  · subst c
    cases h
    exact ⟨['\\'], rfl, by decide, fun _ => rfl⟩
  split at h
  · subst c
    cases h
    exact ⟨['b'], rfl, by decide, fun _ => rfl⟩
  split at h
  · subst c
    cases h
    exact ⟨['t'], rfl, by decide, fun _ => rfl⟩
  split at h
  · subst c
    cases h
    exact ⟨['n'], rfl, by decide, fun _ => rfl⟩
  split at h
  · subst c
    cases h
    exact ⟨['f'], rfl, by decide, fun _ => rfl⟩
  split at h
  · subst c
    cases h
    exact ⟨['r'], rfl, by decide, fun _ => rfl⟩
  split at h
  · rename_i hlt
    cases h
    refine ⟨['u', '0', '0', '0', Nat.digitChar c.toNat], ?_, ?_, ?_⟩
    · rw [String.toList_append, hex_of_lt hlt]
      rfl
    · revert hlt
      generalize c.toNat = n
      revert n
      decide
    · intro rest
      have hread := readEscape_unicode hexValue?_zero (hexValue?_digitChar c.toNat hlt) (by omega)
        rest
      rwa [Nat.zero_mul, Nat.zero_add, Char.ofNat_toNat] at hread
  split at h
  · rename_i hge hlt
    cases h
    refine ⟨['u', '0', '0', Nat.digitChar (c.toNat / 16), Nat.digitChar (c.toNat % 16)], ?_, ?_, ?_⟩
    · rw [String.toList_append, hex_of_ge (by omega) hlt]
      rfl
    · revert hlt
      generalize c.toNat = n
      revert n
      decide
    · intro rest
      have hread := readEscape_unicode (hexValue?_digitChar (c.toNat / 16) (by omega))
        (hexValue?_digitChar (c.toNat % 16) (by omega)) (by omega) rest
      rwa [Nat.div_add_mod', Char.ofNat_toNat] at hread
  · cases h

/-! ## Strings -/

theorem escaped_cons (c : Char) (s : List Char) :
    escaped (c :: s) = escapeChar c ++ escaped s := rfl

/-- No text of a string has a line break in it. -/
theorem not_mem_escaped (s : List Char) : '\n' ∉ escaped s := by
  unfold escaped escapeChar
  rw [List.mem_flatMap]
  rintro ⟨c, -, h⟩
  split at h
  · rename_i e he
    obtain ⟨code, hcode, hnot, -⟩ := of_escape?_eq_some he
    rw [hcode, List.mem_cons] at h
    rcases h with h | h
    · exact absurd h (by decide)
    · exact hnot h
  · rename_i he
    obtain ⟨-, -, hc⟩ := of_escape?_eq_none he
    obtain rfl := List.mem_singleton.1 h
    exact absurd hc (by decide)

theorem readString_plain {fuel : Nat} {c : Char} (h : escape? c = none) (acc rest : List Char) :
    readString (fuel + 1) acc (c :: rest) = readString fuel (c :: acc) rest := by
  obtain ⟨hquote, hslash, hcontrol⟩ := of_escape?_eq_none h
  rw [readString]
  · rw [if_neg (by omega)]
  · exact hquote
  · exact hslash

theorem readString_escape {fuel : Nat} {c : Char} {code : List Char}
    (h : ∀ rest, readEscape (code ++ rest) = .ok (c, rest)) (acc rest : List Char) :
    readString (fuel + 1) acc ('\\' :: (code ++ rest)) = readString fuel (c :: acc) rest := by
  rw [readString, h]
  rfl

/-- The text of a string up to its closing quote is read back as the string. -/
theorem readString_escaped {fuel : Nat} {s : List Char} (hfuel : (escaped s).length ≤ fuel)
    (acc rest : List Char) :
    readString fuel acc (escaped s ++ '"' :: rest) =
      .ok (String.ofList (acc.reverse ++ s), rest) := by
  induction s generalizing fuel acc with
  | nil => simp [escaped, readString]
  | cons c s ih =>
    have hfuel' : (escapeChar c).length + (escaped s).length ≤ fuel := by
      rwa [escaped_cons, List.length_append] at hfuel
    have hrest :
        String.ofList ((c :: acc).reverse ++ s) = String.ofList (acc.reverse ++ c :: s) := by
      simp
    rw [escaped_cons, List.append_assoc]
    unfold escapeChar at hfuel' ⊢
    cases he : escape? c with
    | none =>
      simp only [he, List.length_singleton] at hfuel'
      obtain ⟨fuel, rfl⟩ := Nat.exists_eq_add_of_le' (show 1 ≤ fuel by omega)
      rw [List.singleton_append, readString_plain he, ih (by omega), hrest]
    | some e =>
      obtain ⟨code, hcode, -, hread⟩ := of_escape?_eq_some he
      simp only [he, hcode, List.length_cons] at hfuel'
      obtain ⟨fuel, rfl⟩ := Nat.exists_eq_add_of_le' (show 1 ≤ fuel by omega)
      simp only [hcode]
      rw [List.cons_append, readString_escape hread, ih (by omega), hrest]

/-! ## Numbers -/

/-- Digits are put behind a number as long as the outcome stays below `2 ^ 64`. -/
theorem takeDigits_of_lt {n : Nat} {ds : List Char} (h : Nat.ofDigitChars 10 ds n < UInt64.size) :
    Scientific.takeDigits n ds = (Nat.ofDigitChars 10 ds n, []) := by
  induction ds generalizing n with
  | nil => rfl
  | cons d ds ih =>
    have hnext : n * 10 + digitValue d = 10 * n + (d.toNat - '0'.toNat) := by
      rw [Nat.mul_comm]
      rfl
    rw [Nat.ofDigitChars_cons] at h ⊢
    have hlt : 10 * n + (d.toNat - '0'.toNat) < UInt64.size := by
      refine Nat.lt_of_le_of_lt ?_ h
      rw [Nat.ofDigitChars_eq_ofDigitChars_zero]
      exact Nat.le_add_right_of_le (Nat.le_mul_of_pos_left _ (Nat.pow_pos (by decide)))
    simp only [Scientific.takeDigits, hnext, if_pos hlt]
    exact ih h

theorem ofWhole_toDigits {n : Nat} (h : n < UInt64.size) :
    Scientific.ofWhole (Nat.toDigits 10 n) = ⟨n, 0⟩ := by
  have hdigits : Nat.ofDigitChars 10 (Nat.toDigits 10 n) 0 < UInt64.size := by
    rwa [Nat.ofDigitChars_ten_toDigits]
  have htake := takeDigits_of_lt hdigits
  rw [Nat.ofDigitChars_ten_toDigits] at htake
  simp only [Scientific.ofWhole, htake]
  rfl

/-- Only zero starts with the digit zero. -/
theorem eq_nil_of_toDigits {n : Nat} {ds : List Char} (h : Nat.toDigits 10 n = '0' :: ds) :
    ds = [] := by
  induction n using Nat.strongRecOn generalizing ds with
  | _ n ih =>
    rcases Nat.lt_or_ge n 10 with hlt | hge
    · rw [Nat.toDigits_of_lt_base hlt] at h
      exact (List.cons.inj h).2.symm
    · rw [Nat.toDigits_of_base_le (by decide) hge] at h
      cases hfirst : Nat.toDigits 10 (n / 10) with
      | nil => exact absurd hfirst Nat.toDigits_ne_nil
      | cons d more =>
        rw [hfirst] at h
        obtain ⟨rfl, -⟩ := List.cons.inj h
        obtain rfl := ih (n / 10) (by omega) hfirst
        have hzero : n / 10 = 0 := by
          rw [← Nat.ofDigitChars_ten_toDigits (n := n / 10), hfirst]
          rfl
        omega

/-- What ends a number: the end of the text, or something that cannot go on with it. -/
def EndsNumber (rest : List Char) : Prop :=
  ∀ c ∈ rest.head?, c.isDigit = false ∧ c ≠ '.' ∧ c ≠ 'e' ∧ c ≠ 'E'

/-- A number without point and exponent is read up to its end. -/
theorem readNumber_toDigits {n : Nat} (h : n < UInt64.size) (negative : Bool) {rest : List Char}
    (ends : EndsNumber rest) :
    readNumber negative (Nat.toDigits 10 n ++ rest) = readInteger negative ⟨n, 0⟩ rest := by
  have hdigits : ∀ d ∈ Nat.toDigits 10 n, d.isDigit = true := fun d =>
    Nat.isDigit_of_mem_toDigits (by decide) (by decide)
  obtain ⟨htake, hdrop⟩ := span_of_stop hdigits fun c hc => (ends c hc).1
  cases hds : Nat.toDigits 10 n with
  | nil => exact absurd hds Nat.toDigits_ne_nil
  | cons d ds =>
    have hd : d.isDigit = true := hdigits d (by simp [hds])
    have hleading : ¬ (d = '0' ∧ ((ds ++ rest).head?.any Char.isDigit) = true) := by
      rintro ⟨rfl, hany⟩
      rw [eq_nil_of_toDigits hds, List.nil_append, Option.any_eq_true] at hany
      obtain ⟨c, hc, hdigit⟩ := hany
      rw [(ends c hc).1] at hdigit
      cases hdigit
    have hwhole := ofWhole_toDigits h
    rw [hds] at hwhole
    rw [hds, List.cons_append] at htake hdrop
    rw [List.cons_append, readNumber, if_neg hleading, if_pos hd, htake, hdrop, hwhole]
    dsimp only
    split
    · exact absurd rfl (ends _ rfl).2.1
    · exact absurd rfl (ends _ rfl).2.2.1
    · exact absurd rfl (ends _ rfl).2.2.2
    · rfl

/-! ## Values -/

/-- The text is read as the value where `depth` levels of nesting are left, whatever comes behind
it. It has no blank at its start and cannot be taken for the end of a list. -/
structure Reads (depth : Nat) (text : List Char) (j : Json) : Prop where
  starts : ∃ c more, text = c :: more ∧ isBlank c = false ∧ c ≠ ']'
  read : ∀ {fuel} rest, 2 * text.length ≤ fuel → EndsNumber rest →
    readValue fuel depth (text ++ rest) = .ok (j, rest)

theorem Reads.skipBlanks_eq {depth : Nat} {text : List Char} {j : Json} (h : Reads depth text j)
    (rest : List Char) : skipBlanks (text ++ rest) = text ++ rest := by
  obtain ⟨c, more, rfl, hblank, -⟩ := h.starts
  exact List.dropWhile_cons_of_neg (by simp [hblank])

theorem readWord_append (letters : List Char) (value : Json) (rest : List Char) :
    readWord letters value (letters ++ rest) = .ok (value, rest) := by
  induction letters with
  | nil => rfl
  | cons l letters ih => rw [List.cons_append, readWord, if_pos rfl, ih]

/-- A word is read as the value that its first letter announces. -/
theorem reads_word {first : Char} {letters : List Char} {value : Json} {depth : Nat}
    (starts : isBlank first = false ∧ first ≠ ']')
    (announced : ∀ fuel rest,
      readValue (fuel + 1) depth (first :: rest) = readWord letters value rest) :
    Reads depth (first :: letters) value := by
  refine ⟨⟨first, letters, rfl, starts⟩, ?_⟩
  intro fuel rest hfuel ends
  rw [List.length_cons] at hfuel
  obtain ⟨fuel, rfl⟩ := Nat.exists_eq_add_of_le' (show 1 ≤ fuel by omega)
  rw [List.cons_append, announced]
  exact readWord_append letters value rest

theorem reads_null (depth : Nat) : Reads depth (compact .null).toList .null := by
  have announced : ∀ fuel rest,
      readValue (fuel + 1) depth ('n' :: rest) = readWord ['u', 'l', 'l'] .null rest := by
    intro fuel rest
    simp only [readValue, show skipBlanks ('n' :: rest) = 'n' :: rest from rfl]
  exact reads_word (by decide) announced

theorem reads_bool (depth : Nat) (b : Bool) : Reads depth (compact (.bool b)).toList (.bool b) := by
  cases b with
  | true =>
    have announced : ∀ fuel rest,
        readValue (fuel + 1) depth ('t' :: rest) = readWord ['r', 'u', 'e'] (.bool true) rest := by
      intro fuel rest
      simp only [readValue, show skipBlanks ('t' :: rest) = 't' :: rest from rfl]
    exact reads_word (by decide) announced
  | false =>
    have announced : ∀ fuel rest,
        readValue (fuel + 1) depth ('f' :: rest) =
          readWord ['a', 'l', 's', 'e'] (.bool false) rest := by
      intro fuel rest
      simp only [readValue, show skipBlanks ('f' :: rest) = 'f' :: rest from rfl]
    exact reads_word (by decide) announced

theorem toList_quoted (s : String) :
    (quoted s).toList = '"' :: (escaped s.toList ++ ['"']) := by
  simp [quoted, String.toList_append]

theorem reads_string (depth : Nat) (s : String) :
    Reads depth (compact (.string s)).toList (.string s) := by
  refine ⟨⟨'"', _, toList_quoted s, by decide, by decide⟩, ?_⟩
  intro fuel rest hfuel ends
  have htext : (compact (.string s)).toList ++ rest = '"' :: (escaped s.toList ++ '"' :: rest) := by
    rw [compact, toList_quoted, List.cons_append, List.append_assoc, List.singleton_append]
  have hblanks : skipBlanks ('"' :: (escaped s.toList ++ '"' :: rest)) =
      '"' :: (escaped s.toList ++ '"' :: rest) := rfl
  have hlength : (escaped s.toList).length ≤ (escaped s.toList ++ '"' :: rest).length := by simp
  obtain ⟨fuel, rfl⟩ := Nat.exists_eq_add_of_le' (show 1 ≤ fuel by
    rw [compact, toList_quoted, List.length_cons] at hfuel
    omega)
  simp only [htext, readValue, hblanks, readString_escaped hlength, Read.andThen, List.reverse_nil,
    List.nil_append, String.ofList_toList]

theorem isBlank_of_isDigit {d : Char} (h : d.isDigit = true) : isBlank d = false := by
  unfold isBlank
  rw [Bool.or_eq_false_iff, Bool.or_eq_false_iff, Bool.or_eq_false_iff]
  refine ⟨⟨⟨?_, ?_⟩, ?_⟩, ?_⟩
  all_goals
    rw [decide_eq_false_iff_not]
    rintro rfl
    exact absurd h (by decide)

theorem readValue_digit {d : Char} (h : d.isDigit = true) (fuel depth : Nat) (rest : List Char) :
    readValue (fuel + 1) depth (d :: rest) = readNumber false (d :: rest) := by
  have hskip : skipBlanks (d :: rest) = d :: rest := by
    rw [skipBlanks, List.dropWhile_cons_of_neg (by simp [isBlank_of_isDigit h])]
  rw [readValue, hskip]
  split
  case h_1 heq => cases heq
  case h_9 heq =>
    cases heq
    rw [if_pos h]
  all_goals
    rename_i heq
    cases heq
    exact absurd h (by decide)

theorem toList_compact_natCast (n : Nat) : (compact (.integer n)).toList = Nat.toDigits 10 n := by
  rw [compact, show toString (n : Int) = toString n from rfl, Nat.toString_eq_ofList_toDigits,
    String.toList_ofList]

theorem reads_natCast (depth : Nat) {n : Nat} (h : n < UInt64.size) :
    Reads depth (compact (.integer n)).toList (.integer n) := by
  have hdigits : ∀ d ∈ Nat.toDigits 10 n, d.isDigit = true := fun d =>
    Nat.isDigit_of_mem_toDigits (by decide) (by decide)
  rw [toList_compact_natCast]
  cases hds : Nat.toDigits 10 n with
  | nil => exact absurd hds Nat.toDigits_ne_nil
  | cons d ds =>
    have hd : d.isDigit = true := hdigits d (by simp [hds])
    refine ⟨⟨d, ds, rfl, isBlank_of_isDigit hd, ?_⟩, ?_⟩
    · rintro rfl
      exact absurd hd (by decide)
    · intro fuel rest hfuel ends
      obtain ⟨fuel, rfl⟩ := Nat.exists_eq_add_of_le' (show 1 ≤ fuel by
        rw [List.length_cons] at hfuel
        omega)
      rw [List.cons_append, readValue_digit hd, ← List.cons_append, ← hds,
        readNumber_toDigits h false ends]
      simp [readInteger]

theorem toList_compact_negSucc (n : Nat) :
    (compact (.integer (Int.negSucc n))).toList = '-' :: Nat.toDigits 10 (n + 1) := by
  rw [compact, show toString (Int.negSucc n) = "-" ++ toString (n + 1) from rfl,
    Nat.toString_eq_ofList_toDigits, String.toList_append, String.toList_ofList,
    String.toList_ofList]
  rfl

theorem reads_negSucc (depth : Nat) {n : Nat} (h : n + 1 ≤ Nat.pow 2 63) :
    Reads depth (compact (.integer (Int.negSucc n))).toList (.integer (Int.negSucc n)) := by
  have hbits : n + 1 < UInt64.size := Nat.lt_of_le_of_lt h (by decide)
  rw [toList_compact_negSucc]
  refine ⟨⟨'-', _, rfl, by decide, by decide⟩, ?_⟩
  intro fuel rest hfuel ends
  obtain ⟨fuel, rfl⟩ := Nat.exists_eq_add_of_le' (show 1 ≤ fuel by
    rw [List.length_cons] at hfuel
    omega)
  have hminus : skipBlanks ('-' :: (Nat.toDigits 10 (n + 1) ++ rest)) =
      '-' :: (Nat.toDigits 10 (n + 1) ++ rest) := rfl
  simp only [List.cons_append, readValue, hminus, readNumber_toDigits hbits true ends]
  simp [readInteger, h, Int.negSucc_eq]

/-- An integer, if it is one, takes at most 64 bits. -/
def fits64 : Json → Bool
  | .integer i => decide (-(Nat.pow 2 63 : Int) ≤ i ∧ i < UInt64.size)
  | _ => true

theorem fits64_natCast {n : Nat} (h : n < UInt64.size) : fits64 (.integer n) = true := by
  rw [fits64, decide_eq_true_iff]
  exact ⟨Int.le_trans (Int.neg_nonpos_of_nonneg (Int.natCast_nonneg _)) (Int.natCast_nonneg n),
    Int.ofNat_lt.2 h⟩

theorem reads_integer (depth : Nat) {i : Int} (h : fits64 (.integer i) = true) :
    Reads depth (compact (.integer i)).toList (.integer i) := by
  obtain ⟨hlow, hhigh⟩ := of_decide_eq_true h
  cases i with
  | ofNat n => exact reads_natCast depth (Int.ofNat_lt.1 hhigh)
  | negSucc n => exact reads_negSucc depth (by omega)

/-! ## Lists -/

theorem endsNumber_cons {c : Char} (h : c.isDigit = false ∧ c ≠ '.' ∧ c ≠ 'e' ∧ c ≠ 'E')
    (rest : List Char) : EndsNumber (c :: rest) := by
  rintro _ ⟨⟩
  exact h

/-- What follows an item before the end of its list. -/
def afterItem : List Json → List Char
  | [] => []
  | items => ',' :: (compactItems items).toList

theorem toList_compactItems_cons (j : Json) (items : List Json) :
    (compactItems (j :: items)).toList = j.compact.toList ++ afterItem items := by
  cases items with
  | nil => simp [compactItems, afterItem]
  | cons next more => simp [compactItems, afterItem, String.toList_append]

theorem afterItem_cons (j : Json) (items : List Json) :
    afterItem (j :: items) = ',' :: (j.compact.toList ++ afterItem items) := by
  rw [← toList_compactItems_cons]
  rfl

theorem endsNumber_afterItem (items : List Json) (rest : List Char) :
    EndsNumber (afterItem items ++ ']' :: rest) := by
  cases items with
  | nil => exact endsNumber_cons (by decide) rest
  | cons next more => exact endsNumber_cons (by decide) _

theorem readItems_close (fuel depth : Nat) (first : Bool) (rest : List Char) :
    readItems (fuel + 1) depth first (']' :: rest) = .ok ([], rest) := by
  have hskip : skipBlanks (']' :: rest) = ']' :: rest := rfl
  simp [readItems, hskip]

section

variable {fuel depth : Nat} {text after rest : List Char} {j : Json} {items : List Json}

/-- The limit is free: it is not the one within which the text is read as `j`. -/
theorem readItems_first {limit : Nat} (value : Reads limit text j) (after : List Char) :
    readItems (fuel + 1) depth true (text ++ after) =
      (readValue fuel depth (text ++ after)).andThen fun j rest =>
        (readItems fuel depth false rest).andThen fun items rest => .ok (j :: items, rest) := by
  have hskip := value.skipBlanks_eq after
  obtain ⟨c, more, rfl, -, hclose⟩ := value.starts
  rw [List.cons_append] at hskip ⊢
  rw [readItems, hskip]
  split
  case h_1 heq => cases heq
  case h_2 heq => exact absurd (List.cons.inj heq).1 hclose
  case h_3 heq =>
    cases heq
    rfl

theorem readItems_next {limit : Nat} (value : Reads limit text j) (after : List Char) :
    readItems (fuel + 1) depth false (',' :: (text ++ after)) =
      (readValue fuel depth (text ++ after)).andThen fun j rest =>
        (readItems fuel depth false rest).andThen fun items rest => .ok (j :: items, rest) := by
  have hskip := value.skipBlanks_eq after
  have hcomma : skipBlanks (',' :: (text ++ after)) = ',' :: (text ++ after) := rfl
  obtain ⟨c, more, rfl, -, hclose⟩ := value.starts
  rw [List.cons_append] at hskip hcomma ⊢
  simp [readItems, hcomma, hskip, hclose]

end

/-- The items behind the first are read back if each of them is. -/
theorem readItems_afterItem {depth : Nat} {items : List Json}
    (values : ∀ j ∈ items, Reads depth j.compact.toList j) (rest : List Char) {fuel : Nat}
    (hfuel : 2 * (afterItem items).length + 1 ≤ fuel) :
    readItems fuel depth false (afterItem items ++ ']' :: rest) = .ok (items, rest) := by
  -- each item costs one unit of fuel and its comma pays for two
  induction items generalizing fuel with
  | nil =>
    obtain ⟨fuel, rfl⟩ := Nat.exists_eq_add_of_le' (Nat.le_of_add_left_le hfuel)
    exact readItems_close fuel depth false rest
  | cons j items ih =>
    rw [afterItem_cons, List.length_cons, List.length_append] at hfuel
    rw [afterItem_cons, List.cons_append, List.append_assoc]
    obtain ⟨fuel, rfl⟩ := Nat.exists_eq_add_of_le' (show 1 ≤ fuel by omega)
    have hread := (values j List.mem_cons_self).read (afterItem items ++ ']' :: rest)
      (show _ ≤ fuel by omega) (endsNumber_afterItem items rest)
    have hothers := ih (fun k hk => values k (List.mem_cons_of_mem j hk)) (show _ ≤ fuel by omega)
    simp only [readItems_next (values j List.mem_cons_self), hread, Read.andThen, hothers]

theorem toList_compact_array (items : List Json) :
    (compact (.array items)).toList = '[' :: ((compactItems items).toList ++ [']']) := by
  simp [compact, String.toList_append]

theorem length_afterItem_le (items : List Json) :
    (afterItem items).length ≤ (compactItems items).toList.length + 1 := by
  cases items with
  | nil => exact Nat.zero_le _
  | cons j items => exact Nat.le_refl _

/-- Behind its bracket a list is read as its items are behind another item. -/
theorem readValue_array {limit : Nat} {items : List Json}
    (values : ∀ j ∈ items, Reads limit j.compact.toList j) (fuel depth : Nat) (rest : List Char) :
    readValue (fuel + 2) (depth + 1) ((compact (.array items)).toList ++ rest) =
      (readItems (fuel + 1) depth false (afterItem items ++ ']' :: rest)).andThen
        fun items rest => .ok (.array items, rest) := by
  have hitems : readItems (fuel + 1) depth true ((compactItems items).toList ++ ']' :: rest) =
      readItems (fuel + 1) depth false (afterItem items ++ ']' :: rest) := by
    cases items with
    | nil => exact (readItems_close ..).trans (readItems_close ..).symm
    | cons j items =>
      have value := values j List.mem_cons_self
      rw [toList_compactItems_cons, afterItem_cons, List.cons_append, List.append_assoc,
        readItems_first value, readItems_next value]
  have hskip : skipBlanks ('[' :: ((compactItems items).toList ++ ']' :: rest)) =
      '[' :: ((compactItems items).toList ++ ']' :: rest) := rfl
  rw [toList_compact_array, List.cons_append, List.append_assoc, List.singleton_append, ← hitems]
  simp only [readValue, hskip]

theorem reads_array {depth : Nat} {items : List Json}
    (values : ∀ j ∈ items, Reads depth j.compact.toList j) :
    Reads (depth + 1) (compact (.array items)).toList (.array items) := by
  refine ⟨⟨'[', _, toList_compact_array items, by decide, by decide⟩, ?_⟩
  intro fuel rest hfuel ends
  have hlength := length_afterItem_le items
  simp only [toList_compact_array, List.length_cons, List.length_append, List.length_nil] at hfuel
  obtain ⟨fuel, rfl⟩ := Nat.exists_eq_add_of_le' (show 2 ≤ fuel by omega)
  rw [readValue_array values, readItems_afterItem values rest (show _ ≤ fuel + 1 by omega),
    Read.andThen]

/-! ## Objects -/

/-- What follows a field before the end of its object. -/
def afterField : List (String × Json) → List Char
  | [] => []
  | fields => ',' :: (compactFields fields).toList

theorem toList_compactFields_cons (key : String) (j : Json) (fields : List (String × Json)) :
    (compactFields ((key, j) :: fields)).toList =
      '"' :: (escaped key.toList ++ '"' :: ':' :: (j.compact.toList ++ afterField fields)) := by
  cases fields with
  | nil => simp [compactFields, afterField, toList_quoted, String.toList_append]
  | cons next more => simp [compactFields, afterField, toList_quoted, String.toList_append]

theorem afterField_cons (key : String) (j : Json) (fields : List (String × Json)) :
    afterField ((key, j) :: fields) = ',' :: '"' ::
      (escaped key.toList ++ '"' :: ':' :: (j.compact.toList ++ afterField fields)) := by
  rw [← toList_compactFields_cons]
  rfl

theorem endsNumber_afterField (fields : List (String × Json)) (rest : List Char) :
    EndsNumber (afterField fields ++ '}' :: rest) := by
  cases fields with
  | nil => exact endsNumber_cons (by decide) rest
  | cons next more => exact endsNumber_cons (by decide) _

theorem readFields_close (fuel depth : Nat) (first : Bool) (rest : List Char) :
    readFields (fuel + 1) depth first ('}' :: rest) = .ok ([], rest) := by
  have hskip : skipBlanks ('}' :: rest) = '}' :: rest := rfl
  simp [readFields, hskip]

theorem readFields_first (fuel depth : Nat) (rest : List Char) :
    readFields (fuel + 1) depth true ('"' :: rest) = readField fuel depth rest := by
  have hskip : skipBlanks ('"' :: rest) = '"' :: rest := rfl
  simp [readFields, hskip]

theorem readFields_next (fuel depth : Nat) (rest : List Char) :
    readFields (fuel + 1) depth false (',' :: '"' :: rest) = readField fuel depth rest := by
  have hcomma : skipBlanks (',' :: '"' :: rest) = ',' :: '"' :: rest := rfl
  have hquote : skipBlanks ('"' :: rest) = '"' :: rest := rfl
  simp [readFields, hcomma, hquote]

/-- A field behind the quote it opens with: its value is read, and then the fields after it. -/
theorem readField_key (key : String) (fuel depth : Nat) (text : List Char) :
    readField (fuel + 1) depth (escaped key.toList ++ '"' :: ':' :: text) =
      (readValue fuel depth text).andThen fun j rest =>
        (readFields fuel depth false rest).andThen fun fields rest =>
          .ok ((key, j) :: fields, rest) := by
  have hlength : (escaped key.toList).length ≤
      (escaped key.toList ++ '"' :: ':' :: text).length := by simp
  have hcolon : skipBlanks (':' :: text) = ':' :: text := rfl
  simp only [readField, readString_escaped hlength, Read.andThen, hcolon, List.reverse_nil,
    List.nil_append, String.ofList_toList]

/-- The fields behind the first are read back if the value of each of them is. -/
theorem readFields_afterField {depth : Nat} {fields : List (String × Json)}
    (values : ∀ f ∈ fields, Reads depth f.2.compact.toList f.2) (rest : List Char) {fuel : Nat}
    (hfuel : 2 * (afterField fields).length + 1 ≤ fuel) :
    readFields fuel depth false (afterField fields ++ '}' :: rest) = .ok (fields, rest) := by
  induction fields generalizing fuel with
  | nil =>
    obtain ⟨fuel, rfl⟩ := Nat.exists_eq_add_of_le' (Nat.le_of_add_left_le hfuel)
    exact readFields_close fuel depth false rest
  | cons f fields ih =>
    obtain ⟨key, j⟩ := f
    have value : Reads depth j.compact.toList j := values (key, j) List.mem_cons_self
    rw [afterField_cons] at hfuel ⊢
    simp only [List.length_cons, List.length_append] at hfuel
    obtain ⟨fuel, rfl⟩ := Nat.exists_eq_add_of_le' (show 2 ≤ fuel by omega)
    have hread := value.read (afterField fields ++ '}' :: rest) (show _ ≤ fuel by omega)
      (endsNumber_afterField fields rest)
    have hothers := ih (fun g hg => values g (List.mem_cons_of_mem _ hg)) (show _ ≤ fuel by omega)
    simp only [List.cons_append, List.append_assoc, readFields_next, readField_key, hread,
      Read.andThen, hothers]

theorem toList_compact_object (fields : List (String × Json)) :
    (compact (.object fields)).toList = '{' :: ((compactFields fields).toList ++ ['}']) := by
  simp [compact, String.toList_append]

theorem length_afterField_le (fields : List (String × Json)) :
    (afterField fields).length ≤ (compactFields fields).toList.length + 1 := by
  cases fields with
  | nil => exact Nat.zero_le _
  | cons f fields => exact Nat.le_refl _

/-- Behind its brace an object is read as its fields are behind another field. -/
theorem readValue_object (fuel depth : Nat) (fields : List (String × Json)) (rest : List Char) :
    readValue (fuel + 2) (depth + 1) ((compact (.object fields)).toList ++ rest) =
      (readFields (fuel + 1) depth false (afterField fields ++ '}' :: rest)).andThen
        fun fields rest => .ok (.object fields, rest) := by
  have hfields : readFields (fuel + 1) depth true ((compactFields fields).toList ++ '}' :: rest) =
      readFields (fuel + 1) depth false (afterField fields ++ '}' :: rest) := by
    cases fields with
    | nil => exact (readFields_close ..).trans (readFields_close ..).symm
    | cons f fields =>
      rw [toList_compactFields_cons, afterField_cons, List.cons_append, List.cons_append,
        List.cons_append, readFields_first, readFields_next]
  have hskip : skipBlanks ('{' :: ((compactFields fields).toList ++ '}' :: rest)) =
      '{' :: ((compactFields fields).toList ++ '}' :: rest) := rfl
  rw [toList_compact_object, List.cons_append, List.append_assoc, List.singleton_append, ← hfields]
  simp only [readValue, hskip]

theorem reads_object {depth : Nat} {fields : List (String × Json)}
    (values : ∀ f ∈ fields, Reads depth f.2.compact.toList f.2) :
    Reads (depth + 1) (compact (.object fields)).toList (.object fields) := by
  refine ⟨⟨'{', _, toList_compact_object fields, by decide, by decide⟩, ?_⟩
  intro fuel rest hfuel ends
  have hlength := length_afterField_le fields
  simp only [toList_compact_object, List.length_cons, List.length_append, List.length_nil] at hfuel
  obtain ⟨fuel, rfl⟩ := Nat.exists_eq_add_of_le' (show 2 ≤ fuel by omega)
  rw [readValue_object, readFields_afterField values rest (show _ ≤ fuel + 1 by omega),
    Read.andThen]

/-! ## All values -/

def notFloat : Json → Bool
  | .float _ => false
  | _ => true

/-- Read back from its text, if all that is inside it is. -/
def faithful (j : Json) : Bool := j.notFloat && j.fits64

theorem faithful_natCast {n : Nat} (h : n < UInt64.size) : faithful (.integer n) = true := by
  rw [faithful, fits64_natCast h]
  rfl

/-- Every value without floats, all its integers of at most 64 bits, is read back from its text
where as many levels are left as it has. -/
theorem reads_compact {j : Json} {depth : Nat} (h : j.All faithful) (hdepth : j.depth ≤ depth) :
    Reads depth j.compact.toList j := by
  induction j using induct generalizing depth with
  | null => exact reads_null depth
  | bool b => exact reads_bool depth b
  | integer i => exact reads_integer depth h.here
  | float x => exact absurd h.here Bool.false_ne_true
  | string s => exact reads_string depth s
  | array items ih =>
    rw [Json.depth] at hdepth
    obtain ⟨depth, rfl⟩ := Nat.exists_eq_add_of_le' (Nat.le_of_add_left_le hdepth)
    have hitems := depthOfItems_le.1 (Nat.le_of_add_le_add_right hdepth)
    exact reads_array fun j hj => ih j hj ((all_array.1 h).2 j hj) (hitems j hj)
  | object fields ih =>
    rw [Json.depth] at hdepth
    obtain ⟨depth, rfl⟩ := Nat.exists_eq_add_of_le' (Nat.le_of_add_left_le hdepth)
    have hfields := depthOfFields_le.1 (Nat.le_of_add_le_add_right hdepth)
    exact reads_object fun f hf => ih f hf ((all_object.1 h).2 f hf) (hfields f hf)

/-- The reader gives such a value back from its text unless it is nested too deep. -/
theorem read_compact {j : Json} (h : j.All faithful) (hdepth : j.depth ≤ 127) :
    read j.compact = .ok j := by
  have hvalue := (reads_compact h hdepth).read [] (Nat.le_add_right _ 2) nofun
  have hnothing : skipBlanks [] = [] := rfl
  rw [List.append_nil] at hvalue
  simp only [read, hvalue, hnothing]

/-- However deep they are nested, no two such values have the same text. -/
theorem compact_injective {j k : Json} (hj : j.All faithful) (hk : k.All faithful)
    (h : j.compact = k.compact) : j = k := by
  -- the reader takes any limit, so one that allows for both leaves nothing to assume of them
  have first := (reads_compact hj (Nat.le_max_left j.depth k.depth)).read [] (Nat.le_refl _) nofun
  have second := (reads_compact hk (Nat.le_max_right j.depth k.depth)).read [] (Nat.le_refl _) nofun
  rw [h, second] at first
  exact (Prod.mk.inj (Except.ok.inj first)).1.symm

end Json

end BatchedLog

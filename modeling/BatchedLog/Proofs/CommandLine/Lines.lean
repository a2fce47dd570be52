import BatchedLog.CommandLine.Input

/-!
# Lines of a text

An input that is UTF-8 throughout has the lines of its text: a line feed is one byte, and no other
character has that byte in its encoding, nor does any but a carriage return end in a carriage
return. So it makes no difference whether the input is cut before it is decoded or after.
-/

namespace BatchedLog

/-- What has no separator in it goes to the first piece. -/
theorem Text.split_append_of_not_mem {α : Type} [DecidableEq α] {sep : α} {front : List α}
    (h : sep ∉ front) {rest piece : List α} {pieces : List (List α)}
    (hrest : Text.split sep rest = piece :: pieces) :
    Text.split sep (front ++ rest) = (front ++ piece) :: pieces := by
  induction front with
  | nil => exact hrest
  | cons a front ih =>
    obtain ⟨ha, hfront⟩ := not_or.1 (mt List.mem_cons.2 h)
    rw [List.cons_append, Text.split, ih hfront]
    exact if_neg (Ne.symm ha)

namespace CommandLine

/-- A line without the carriage return before its line feed. -/
def withoutReturn (line : List Char) : List Char :=
  if line.getLast? = some '\r' then line.dropLast else line

/-- The lines of a text. What stands after the last line feed is one if it is not empty. -/
def textLines (text : List Char) : List (List Char) :=
  let pieces := Text.split '\n' text
  pieces.dropLast.map withoutReturn ++ (pieces.getLast?.filter (!·.isEmpty)).toList

def bytesOf (text : List Char) : List UInt8 := text.flatMap String.utf8EncodeChar

/-! ## Bytes of characters -/

/-- A byte below 128 is the whole encoding of a character. -/
theorem of_mem_utf8EncodeChar {c : Char} {b : UInt8} (h : b ∈ String.utf8EncodeChar c)
    (hb : b.toNat < 128) : String.utf8EncodeChar c = [b] ∧ c.toNat = b.toNat := by
  have htoNat : c.val.toNat = c.toNat := rfl
  simp only [String.utf8EncodeChar, htoNat] at h ⊢
  split at h
  · rename_i hsmall
    obtain rfl := List.mem_singleton.1 h
    rw [if_pos hsmall, UInt8.toNat_ofNat']
    exact ⟨rfl, by omega⟩
  all_goals
    exfalso
    have hrange : ∃ n, b = UInt8.ofNat n ∧ 128 ≤ n ∧ n < 256 := by
      have hc := c.val.toNat_lt
      split at h
      · simp only [List.mem_cons, List.not_mem_nil, or_false] at h
        rcases h with rfl | rfl
        all_goals exact ⟨_, rfl, by omega, by omega⟩
      split at h
      · simp only [List.mem_cons, List.not_mem_nil, or_false] at h
        rcases h with rfl | rfl | rfl
        all_goals exact ⟨_, rfl, by omega, by omega⟩
      · simp only [List.mem_cons, List.not_mem_nil, or_false] at h
        rcases h with rfl | rfl | rfl | rfl
        all_goals exact ⟨_, rfl, by omega, by omega⟩
    obtain ⟨n, rfl, hlow, hhigh⟩ := hrange
    rw [UInt8.toNat_ofNat'] at hb
    omega

theorem lineFeed_not_mem {c : Char} (h : c ≠ '\n') : lineFeed ∉ String.utf8EncodeChar c := by
  intro hmem
  obtain ⟨-, hc⟩ := of_mem_utf8EncodeChar hmem (by decide)
  exact h (Char.toNat_inj.1 hc)

theorem getLast?_utf8EncodeChar (c : Char) :
    (String.utf8EncodeChar c).getLast? = some carriageReturn ↔ c = '\r' := by
  constructor
  · intro h
    obtain ⟨-, hc⟩ := of_mem_utf8EncodeChar (List.mem_of_getLast? h) (by decide)
    exact Char.toNat_inj.1 hc
  · rintro rfl
    rfl

theorem bytesOf_concat (text : List Char) (c : Char) :
    bytesOf (text ++ [c]) = bytesOf text ++ String.utf8EncodeChar c := by
  simp [bytesOf]

theorem bytesOf_eq_nil {text : List Char} : bytesOf text = [] ↔ text = [] := by
  simp only [bytesOf, List.flatMap_eq_nil_iff, String.utf8EncodeChar_ne_nil]
  exact ⟨fun h => List.eq_nil_iff_forall_not_mem.2 fun c hc => h c hc, fun h => by simp [h]⟩

/-! ## Cutting and decoding -/

theorem split_bytesOf (text : List Char) :
    Text.split lineFeed (bytesOf text) = (Text.split '\n' text).map bytesOf := by
  induction text with
  | nil => rfl
  | cons c text ih =>
    cases hsplit : Text.split '\n' text with
    | nil => exact absurd hsplit (Text.split_ne_nil _ _)
    | cons piece pieces =>
      rw [hsplit, List.map_cons] at ih
      have hbytes : bytesOf (c :: text) = String.utf8EncodeChar c ++ bytesOf text := rfl
      by_cases hc : c = '\n'
      · subst hc
        have hfeed : bytesOf ('\n' :: text) = [] ++ lineFeed :: bytesOf text := rfl
        rw [hfeed, Text.split_append_cons List.not_mem_nil, ih, Text.split, hsplit]
        rfl
      · rw [hbytes, Text.split_append_of_not_mem (lineFeed_not_mem hc) ih, Text.split, hsplit]
        simp only [if_neg hc]
        rfl

theorem dropReturn_bytesOf (line : List Char) :
    dropReturn (bytesOf line) = bytesOf (withoutReturn line) := by
  rcases List.eq_nil_or_concat line with rfl | ⟨front, c, rfl⟩
  · rfl
  · rw [List.concat_eq_append]
    have hlast : (bytesOf (front ++ [c])).getLast? = (String.utf8EncodeChar c).getLast? := by
      rw [bytesOf_concat, List.getLast?_append,
        List.getLast?_eq_some_getLast String.utf8EncodeChar_ne_nil]
      rfl
    unfold dropReturn withoutReturn
    rw [hlast, List.getLast?_concat]
    by_cases hc : c = '\r'
    · subst hc
      rw [if_pos ((getLast?_utf8EncodeChar '\r').2 rfl), if_pos rfl, bytesOf_concat,
        List.dropLast_concat]
      exact List.dropLast_concat
    · rw [if_neg (mt (getLast?_utf8EncodeChar c).1 hc), if_neg (mt Option.some.inj hc)]

theorem rawLines_bytesOf (text : List Char) :
    rawLines (bytesOf text) = (textLines text).map bytesOf := by
  unfold rawLines textLines
  dsimp only
  rw [split_bytesOf, ← List.map_dropLast, List.getLast?_map, List.map_append, List.map_map,
    List.map_map]
  congr 1
  · apply List.map_congr_left
    exact fun line _ => dropReturn_bytesOf line
  · cases (Text.split '\n' text).getLast? with
    | none => rfl
    | some last =>
      cases last with
      | nil => rfl
      | cons c last =>
        have hne : (bytesOf (c :: last)).isEmpty = false :=
          List.isEmpty_eq_false_iff.2 (mt bytesOf_eq_nil.1 (List.cons_ne_nil c last))
        simp [Option.filter, hne]

theorem decode?_bytesOf (line : List Char) :
    decode? (bytesOf line) = some (String.ofList line) := by
  have hbytes : (⟨(bytesOf line).toArray⟩ : ByteArray) = (String.ofList line).toByteArray := by
    rw [String.toByteArray_ofList, List.utf8Encode, ← List.data_toByteArray]
    rfl
  rw [decode?, hbytes, String.fromUTF8?, dif_pos (String.ofList line).isValidUTF8]
  rfl

theorem readable_bytesOf (lines : List (List Char)) :
    readable (lines.map bytesOf) = (lines.map String.ofList, true) := by
  induction lines with
  | nil => rfl
  | cons line lines ih =>
    rw [List.map_cons, readable, decode?_bytesOf, ih]
    rfl

/-- The lines that are read from the encoding of a text are those of the text. -/
theorem linesOf_toUTF8 (text : String) :
    linesOf text.toUTF8 = ((textLines text.toList).map String.ofList, true) := by
  have hbytes : text.toUTF8.data.toList = bytesOf text.toList := by
    rw [String.toUTF8, ← String.utf8Encode_toList, List.utf8Encode, List.toList_data_toByteArray]
    rfl
  rw [linesOf, hbytes, rawLines_bytesOf, readable_bytesOf]

theorem not_mem_textLines {text line : List Char} (h : line ∈ textLines text) : '\n' ∉ line := by
  rcases List.mem_append.1 h with hended | hlast
  · obtain ⟨piece, hpiece, rfl⟩ := List.mem_map.1 hended
    have hnot := Text.not_mem_of_mem_split (List.dropLast_subset _ hpiece)
    unfold withoutReturn
    split
    · exact fun hmem => hnot (List.dropLast_subset _ hmem)
    · exact hnot
  · obtain ⟨hpiece, -⟩ := Option.filter_eq_some_iff.1 (Option.mem_toList.1 hlast)
    exact Text.not_mem_of_mem_split (List.mem_of_getLast? hpiece)

end CommandLine

end BatchedLog

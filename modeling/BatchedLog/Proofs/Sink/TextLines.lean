import BatchedLog.Proofs.Sink.Lines

/-!
# Text lines

The message of a text line is written as it is, so it may hold anything that a line is made of. A
line says what its entry is nevertheless: the level ends at the first `]`, the milliseconds at the
first character behind them that is no digit, and the message is all that comes after the bar.
-/

namespace BatchedLog

/-- What a line shows of an entry. -/
def Entry.shown (e : Entry) : Level × Nat × String := (e.level, e.unixMillis, e.message)

namespace LineFormat

/-- The milliseconds in front of the bar, and the message behind it. -/
def readStamped (s : List Char) : Option (Nat × String) :=
  match s.dropWhile Char.isDigit with
  | ' ' :: '|' :: ' ' :: message =>
    some (Nat.ofDigitChars 10 (s.takeWhile Char.isDigit) 0, String.ofList message)
  | _ => none

/-- What a text line shows, read off the line alone. -/
def readText : List Char → Option (Level × Nat × String)
  | '[' :: s =>
    match s.dropWhile (· != ']') with
    | ']' :: ' ' :: stamped => do
      let level ← (Level.ofVariant (String.ofList (s.takeWhile (· != ']')))).toOption
      return (level, ← readStamped stamped)
    | _ => none
  | _ => none

theorem readStamped_toDigits (n : Nat) (message : String) :
    readStamped (Nat.toDigits 10 n ++ ' ' :: '|' :: ' ' :: message.toList) = some (n, message) := by
  have digits : ∀ d ∈ Nat.toDigits 10 n, d.isDigit = true := fun d =>
    Nat.isDigit_of_mem_toDigits (by decide) (by decide)
  have stops : ∀ c ∈ (' ' :: '|' :: ' ' :: message.toList).head?, c.isDigit = false := by
    rintro _ ⟨⟩
    decide
  obtain ⟨htake, hdrop⟩ := span_of_stop digits stops
  simp only [readStamped, hdrop, htake, Nat.ofDigitChars_ten_toDigits, String.ofList_toList]

theorem toList_body_text (e : Entry) : (LineFormat.text.body e).toList =
    '[' :: (e.level.name.toList ++ ']' :: ' ' ::
      (Nat.toDigits 10 e.unixMillis ++ ' ' :: '|' :: ' ' :: e.message.toList)) := by
  simp [body, String.toList_append]

/-- Every text line is read back, whatever its message holds. -/
theorem readText_body (e : Entry) : readText (LineFormat.text.body e).toList = some e.shown := by
  have bracket : ']' ∉ e.level.name.toList := by
    cases e.level with
    | _ => decide
  have letters : ∀ c ∈ e.level.name.toList, (c != ']') = true := fun c hc =>
    bne_iff_ne.2 fun h => bracket (h ▸ hc)
  have known : (Level.ofVariant e.level.name).toOption = some e.level := by
    cases e.level with
    | _ => rfl
  rw [toList_body_text]
  generalize hstamped :
    Nat.toDigits 10 e.unixMillis ++ ' ' :: '|' :: ' ' :: e.message.toList = stamped
  have stops : ∀ c ∈ (']' :: ' ' :: stamped).head?, (c != ']') = false := by
    rintro _ ⟨⟩
    decide
  obtain ⟨htake, hdrop⟩ := span_of_stop letters stops
  simp only [readText, hdrop, htake, String.ofList_toList, known]
  rw [← hstamped, readStamped_toDigits]
  rfl

/-- Batches written one after the other are the lines of all their entries. -/
theorem join_render (f : LineFormat) (batches : List (List Entry)) :
    String.join (batches.map f.render) = f.render batches.flatten := by
  induction batches with
  | nil => rfl
  | cons batch batches ih =>
    rw [List.map_cons, String.join_cons, ih, List.flatten_cons, render_append]

/-- The text of batches, cut at its line breaks, gives for each entry what its line says. -/
theorem lines_of_text {batches : List (List Entry)}
    (unbroken : ∀ e ∈ batches.flatten, '\n' ∉ e.message.toList) :
    ∃ lines, Text.split '\n' (String.join (batches.map LineFormat.text.render)).toList =
        lines ++ [[]] ∧
      lines.map readText = batches.flatten.map fun e => some e.shown := by
  refine ⟨batches.flatten.map fun e => (LineFormat.text.body e).toList, ?_, ?_⟩
  · rw [join_render]
    exact split_render _ fun e he => not_mem_body _ fun _ => unbroken e he
  · rw [List.map_map]
    exact List.map_congr_left fun e _ => readText_body e

end LineFormat

/-- Where no message has a line break, the text of any number of batches has one line for each
entry, in order, and nothing behind the last line break; each line alone shows the level, the
milliseconds and the message of its entry. So batches with the same bytes show the same. -/
theorem text_lines_lossless {batches : List (List Entry)}
    (unbroken : ∀ e ∈ batches.flatten, '\n' ∉ e.message.toList) :
    (∃ lines, Text.split '\n' (String.join (batches.map LineFormat.text.render)).toList =
        lines ++ [[]] ∧
      lines.map LineFormat.readText = batches.flatten.map fun e => some e.shown) ∧
      ∀ others : List (List Entry), (∀ e ∈ others.flatten, '\n' ∉ e.message.toList) →
        (String.join (others.map LineFormat.text.render)).toUTF8 =
          (String.join (batches.map LineFormat.text.render)).toUTF8 →
        others.flatten.map Entry.shown = batches.flatten.map Entry.shown := by
  obtain ⟨lines, hsplit, hlines⟩ := LineFormat.lines_of_text unbroken
  refine ⟨⟨lines, hsplit, hlines⟩, ?_⟩
  intro others unbroken' same
  obtain ⟨lines', hsplit', hlines'⟩ := LineFormat.lines_of_text unbroken'
  have htext : String.join (others.map LineFormat.text.render) =
      String.join (batches.map LineFormat.text.render) := String.toByteArray_inj.1 same
  rw [htext, hsplit] at hsplit'
  obtain rfl : lines = lines' := List.append_cancel_right hsplit'
  have hshown : (others.flatten.map Entry.shown).map some =
      (batches.flatten.map Entry.shown).map some := by
    rw [List.map_map, List.map_map]
    exact hlines'.symm.trans hlines
  exact List.map_injective_iff.2 (fun _ _ => Option.some.inj) hshown

/-- Messages that hold bars, brackets and digits, one that is a line itself, and none at all. -/
def disguised : List (List Entry) :=
  [[⟨"] 5 | a", .info, ⟨1500000⟩⟩, ⟨"[error] 7 | b", .warning, ⟨-1⟩⟩], [⟨"", .trace, ⟨0⟩⟩]]

theorem text_lines_lossless_disguised : (∀ e ∈ disguised.flatten, '\n' ∉ e.message.toList) ∧
    ∃ lines, Text.split '\n' (String.join (disguised.map LineFormat.text.render)).toList =
        lines ++ [[]] ∧
      lines.map LineFormat.readText = [some (.info, 1, "] 5 | a"),
        some (.warning, 0, "[error] 7 | b"), some (.trace, 0, "")] := by
  have unbroken : ∀ e ∈ disguised.flatten, '\n' ∉ e.message.toList := by decide
  have shown : (disguised.flatten.map fun e => some e.shown) = [some (.info, 1, "] 5 | a"),
      some (.warning, 0, "[error] 7 | b"), some (.trace, 0, "")] := by decide +kernel
  obtain ⟨⟨lines, hsplit, hlines⟩, -⟩ := text_lines_lossless unbroken
  exact ⟨unbroken, lines, hsplit, hlines.trans shown⟩

end BatchedLog

import BatchedLog.Proofs.Json.RoundTrip
import BatchedLog.Sink.LineFormat
import BatchedLog.Text.Split

/-!
# Lines and entries

In either format an entry is a text and a line break after it. Where these texts have no line breaks
of their own, as JSON records never have, the entries can be told apart again by cutting at the line
breaks; and a JSON record is read back as the entry's.
-/

namespace BatchedLog

/-! ## The text of a record -/

theorem Json.toList_join_fragments (run s : List Char) :
    (String.join (Json.fragments run s)).toList = run.reverse ++ Json.escaped s := by
  induction s generalizing run with
  | nil =>
    unfold Json.fragments
    split
    · rename_i h
      rw [List.isEmpty_iff.1 h]
      rfl
    · simp [Json.escaped]
  | cons c s ih =>
    unfold Json.fragments
    rw [Json.escaped_cons]
    unfold Json.escapeChar
    cases Json.escape? c with
    | none =>
      simp only [ih (c :: run)]
      simp
    | some e =>
      dsimp only
      rw [String.join_append, String.toList_append, String.join_cons, String.toList_append, ih []]
      split
      · rename_i h
        rw [List.isEmpty_iff.1 h]
        rfl
      · simp

namespace LineFormat

theorem join_quotedPieces (s : String) : String.join (quotedPieces s) = Json.quoted s := by
  rw [← String.toList_inj, quotedPieces, Json.toList_quoted, String.join_cons, String.join_append,
    String.toList_append, String.toList_append, Json.toList_join_fragments]
  rfl

/-- The pieces of a record are its compact text. -/
theorem join_recordPieces (e : Entry) : String.join (recordPieces e) = e.record.compact := by
  have hstamp : toString (e.unixMillis : Int) = toString e.unixMillis := rfl
  simp only [recordPieces, Entry.record, Json.compact, Json.compactFields, String.join_append,
    join_quotedPieces, String.join_cons, String.join_nil, String.append_assoc, String.append_empty,
    hstamp]

/-- What stands for an entry before the line break. -/
def body (f : LineFormat) (e : Entry) : String :=
  match f with
  | .text => "[" ++ e.level.name ++ "] " ++ toString e.unixMillis ++ " | " ++ e.message
  | .json => e.record.compact

theorem line_eq (f : LineFormat) (e : Entry) : f.line e = f.body e ++ "\n" := by
  cases f with
  | text =>
    simp only [line, pieces, body, List.map_cons, List.map_nil, String.join_cons, String.join_nil,
      String.append_assoc, String.append_empty]
  | json =>
    have hrecord : ((recordPieces e).map fun text => Piece.mk text true).map (·.text) =
        recordPieces e := by
      rw [List.map_map]
      exact List.map_id _
    simp only [line, pieces, body, List.map_append, List.map_cons, List.map_nil, hrecord,
      String.join_append, join_recordPieces, String.join_cons, String.join_nil, String.append_empty]

end LineFormat

/-! ## Records read back -/

theorem Entry.unixMillis_lt (e : Entry) : e.unixMillis < UInt64.size := by
  have hmax : Instant.maxMillis < UInt64.size := by decide
  exact Nat.lt_of_le_of_lt (Nat.min_le_right ..) hmax

/-- The text of a record is read back as the record. -/
theorem Entry.read_record (e : Entry) : Json.read e.record.compact = .ok e.record := by
  have hstamp := Json.faithful_natCast e.unixMillis_lt
  refine Json.read_compact (Json.all_object.2 ⟨rfl, ?_⟩) ?_
  · simp only [List.forall_mem_cons]
    exact ⟨.of_single rfl hstamp, .of_single rfl rfl, .of_single rfl rfl, nofun⟩
  · simp [record, Json.depth, Json.depthOfFields]

/-! ## Line breaks -/

theorem not_mem_toDigits (n : Nat) : '\n' ∉ Nat.toDigits 10 n := by
  intro h
  exact absurd (Nat.isDigit_of_mem_toDigits (by decide) (by decide) h) (by decide)

theorem Level.not_mem_name (l : Level) : '\n' ∉ l.name.toList := by
  cases l with
  | _ => decide

theorem Json.not_mem_quoted (s : String) : '\n' ∉ (Json.quoted s).toList := by
  rw [Json.toList_quoted]
  simp [Json.not_mem_escaped]

theorem Entry.not_mem_record (e : Entry) : '\n' ∉ e.record.compact.toList := by
  have hstamp : toString (e.unixMillis : Int) = toString e.unixMillis := rfl
  simp [Entry.record, Json.compact, Json.compactFields, String.toList_append, Json.not_mem_quoted,
    hstamp, not_mem_toDigits, -Int.toString_eq_repr]

namespace LineFormat

theorem not_mem_body (f : LineFormat) {e : Entry} (h : f = .text → '\n' ∉ e.message.toList) :
    '\n' ∉ (f.body e).toList := by
  cases f with
  | text =>
    simp [body, String.toList_append, Level.not_mem_name, not_mem_toDigits, h rfl]
  | json => exact e.not_mem_record

theorem render_append (f : LineFormat) (xs ys : List Entry) :
    f.render (xs ++ ys) = f.render xs ++ f.render ys := by
  rw [render, List.map_append, String.join_append]
  rfl

theorem toList_render_cons (f : LineFormat) (e : Entry) (es : List Entry) :
    (f.render (e :: es)).toList = (f.body e).toList ++ '\n' :: (f.render es).toList := by
  rw [render, List.map_cons, String.join_cons, line_eq, String.append_assoc, String.toList_append,
    String.toList_append]
  rfl

theorem count_render (f : LineFormat) {es : List Entry}
    (h : ∀ e ∈ es, '\n' ∉ (f.body e).toList) : (f.render es).toList.count '\n' = es.length := by
  induction es with
  | nil => rfl
  | cons e es ih =>
    rw [toList_render_cons, List.count_append, List.count_cons_self,
      List.count_eq_zero_of_not_mem (h e List.mem_cons_self),
      ih fun e he => h e (List.mem_cons_of_mem _ he), List.length_cons]
    omega

/-- Cutting at the line breaks gives the entries back, and nothing after the last. -/
theorem split_render (f : LineFormat) {es : List Entry}
    (h : ∀ e ∈ es, '\n' ∉ (f.body e).toList) :
    Text.split '\n' (f.render es).toList = es.map (fun e => (f.body e).toList) ++ [[]] := by
  induction es with
  | nil => rfl
  | cons e es ih =>
    rw [toList_render_cons, Text.split_append_cons (h e List.mem_cons_self),
      ih fun e he => h e (List.mem_cons_of_mem _ he)]
    rfl

theorem getLast?_render (f : LineFormat) {es : List Entry} (h : es ≠ []) :
    (f.render es).toList.getLast? = some '\n' := by
  induction es with
  | nil => exact absurd rfl h
  | cons e es ih =>
    rw [toList_render_cons]
    cases es with
    | nil => simp [render]
    | cons next more =>
      have hlast := ih (List.cons_ne_nil _ _)
      rw [List.getLast?_append_cons, List.getLast?_cons, hlast]
      rfl

end LineFormat

end BatchedLog

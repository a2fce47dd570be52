import BatchedLog.Level
import Mathlib.Data.List.Forall2

/-!
# Spellings of levels

A level is spelled by its name, and `warning` by `warn` as well, in any letter case and with any
amount of white space on both sides. Exactly these texts are read as levels; any other comes back as
it was given. Letter case concerns the ASCII letters alone: letters of other alphabets that look
like them spell nothing.
-/

namespace BatchedLog

namespace Text

/-- The same character, or an ASCII letter once as a capital and once small. -/
def SameLetter (c d : Char) : Prop :=
  c = d ∨ (c.isUpper = true ∧ d.toNat = c.toNat + 32) ∨ (d.isUpper = true ∧ c.toNat = d.toNat + 32)

instance (c d : Char) : Decidable (SameLetter c d) := inferInstanceAs (Decidable (_ ∨ _))

/-- The same text but for the case of ASCII letters. -/
def SameButCase (s t : List Char) : Prop := List.Forall₂ SameLetter s t

instance (s t : List Char) : Decidable (SameButCase s t) :=
  inferInstanceAs (Decidable (List.Forall₂ _ _ _))

variable {c d : Char} {s t : List Char}

theorem isUpper_iff : c.isUpper = true ↔ 65 ≤ c.toNat ∧ c.toNat ≤ 90 := by
  change decide ('A'.val ≤ c.val ∧ c.val ≤ 'Z'.val) = true ↔ _
  rw [decide_eq_true_iff, UInt32.le_iff_toNat_le, UInt32.le_iff_toNat_le]
  rfl

theorem toNat_toLower (h : c.isUpper = true) : c.toLower.toNat = c.toNat + 32 := by
  have hrange : 65 ≤ c.toNat ∧ c.toNat ≤ 90 := isUpper_iff.1 h
  have hlower : c.toLower.toNat = (c.val + 32).toNat :=
    congrArg Char.toNat (dif_pos (of_decide_eq_true h))
  rw [hlower]
  change (c.toNat + 32) % 2 ^ 32 = c.toNat + 32
  omega

theorem toLower_of_not_isUpper (h : c.isUpper = false) : c.toLower = c :=
  dif_neg (of_decide_eq_false h)

theorem sameLetter_toLower (c : Char) : SameLetter c c.toLower := by
  cases h : c.isUpper with
  | false => exact Or.inl (toLower_of_not_isUpper h).symm
  | true => exact Or.inr (Or.inl ⟨h, toNat_toLower h⟩)

theorem SameLetter.toLower_eq (h : SameLetter c d) : c.toLower = d.toLower := by
  have small : ∀ {a b : Char}, a.isUpper = true → b.toNat = a.toNat + 32 →
      a.toLower = b.toLower := by
    intro a b ha hb
    have hnot : b.isUpper = false := by
      apply Bool.eq_false_iff.2
      intro hupper
      have hrange := isUpper_iff.1 ha
      have hrange' := isUpper_iff.1 hupper
      omega
    rw [toLower_of_not_isUpper hnot]
    exact Char.toNat_inj.1 ((toNat_toLower ha).trans hb.symm)
  rcases h with rfl | ⟨hc, hd⟩ | ⟨hd, hc⟩
  · rfl
  · exact small hc hd
  · exact (small hd hc).symm

/-- No printable ASCII character but the space is white space. -/
theorem isWhiteSpace_of_printable (h : 0x20 < c.toNat ∧ c.toNat < 0x7f) :
    isWhiteSpace c = false := by
  apply Bool.eq_false_iff.2
  intro hspace
  simp only [isWhiteSpace, Bool.or_eq_true, Bool.and_eq_true, decide_eq_true_eq, beq_iff_eq]
    at hspace
  omega

/-- No letter is white space. -/
theorem SameLetter.isWhiteSpace_eq (h : SameLetter c d) : isWhiteSpace c = isWhiteSpace d := by
  have solid : ∀ {a b : Char}, a.isUpper = true → b.toNat = a.toNat + 32 →
      isWhiteSpace a = false ∧ isWhiteSpace b = false := by
    intro a b ha hb
    have hrange := isUpper_iff.1 ha
    exact ⟨isWhiteSpace_of_printable (by omega), isWhiteSpace_of_printable (by omega)⟩
  rcases h with rfl | ⟨hc, hd⟩ | ⟨hd, hc⟩
  · rfl
  · rw [(solid hc hd).1, (solid hc hd).2]
  · rw [(solid hd hc).1, (solid hd hc).2]

theorem sameButCase_map_toLower (s : List Char) : SameButCase s (s.map Char.toLower) :=
  List.forall₂_map_right_iff.2 (List.forall₂_same.2 fun c _ => sameLetter_toLower c)

theorem SameButCase.map_toLower_eq (h : SameButCase s t) :
    s.map Char.toLower = t.map Char.toLower := by
  induction h with
  | nil => rfl
  | cons hcd _ ih => rw [List.map_cons, List.map_cons, hcd.toLower_eq, ih]

theorem SameButCase.solid (h : SameButCase s t) (ht : ∀ c ∈ t, isWhiteSpace c = false) :
    ∀ c ∈ s, isWhiteSpace c = false := by
  induction h with
  | nil => exact ht
  | cons hcd _ ih =>
    intro c hc
    rcases List.mem_cons.1 hc with rfl | hc
    · rw [hcd.isWhiteSpace_eq]
      exact ht _ List.mem_cons_self
    · exact ih (fun d hd => ht d (List.mem_cons_of_mem _ hd)) c hc

end Text

namespace Level

open Text

/-- The words for a level. -/
inductive Named : Level → String → Prop
  | name (l : Level) : Named l l.name
  | warn : Named warning "warn"

/-- A word for the level in any letter case, with any white space before and behind it. -/
def Spells (l : Level) (s : String) : Prop :=
  ∃ before shown after word, s.toList = before ++ shown ++ after ∧
    (∀ c ∈ before, isWhiteSpace c = true) ∧ (∀ c ∈ after, isWhiteSpace c = true) ∧
    Named l word ∧ SameButCase shown word.toList

variable {l : Level} {s word : String}

theorem ofWord?_eq_some_iff : ofWord? word = some l ↔ Named l word := by
  constructor
  · intro h
    unfold ofWord? at h
    split_ifs at h with herror hwarning hinfo htrace
    · obtain rfl := Option.some.inj h
      exact herror ▸ Named.name error
    · obtain rfl := Option.some.inj h
      rcases hwarning with rfl | rfl
      · exact Named.name warning
      · exact Named.warn
    · obtain rfl := Option.some.inj h
      exact hinfo ▸ Named.name info
    · obtain rfl := Option.some.inj h
      exact htrace ▸ Named.name trace
  · intro h
    cases h with
    | name => exact ofWord?_name l
    | warn => rfl

/-- Words for levels are written in small letters. -/
theorem Named.map_toLower (h : Named l word) : word.toList.map Char.toLower = word.toList := by
  cases h with
  | name => cases l <;> rfl
  | warn => rfl

theorem Named.solid (h : Named l word) : ∀ c ∈ word.toList, isWhiteSpace c = false := by
  have hall : (word.toList.all fun c => !isWhiteSpace c) = true := by
    cases h with
    | name => cases l <;> rfl
    | warn => rfl
  simpa using hall

/-- What a text comes to without padding and capitals is a word for a level exactly if the text
spells the level. -/
theorem ofWord?_folded_iff :
    ofWord? (String.ofList ((trim s.toList).map Char.toLower)) = some l ↔ Spells l s := by
  rw [ofWord?_eq_some_iff]
  constructor
  · intro h
    obtain ⟨before, after, hs, hbefore, hafter⟩ := exists_trim s.toList
    refine ⟨before, trim s.toList, after, _, hs, hbefore, hafter, h, ?_⟩
    rw [String.toList_ofList]
    exact sameButCase_map_toLower _
  · rintro ⟨before, shown, after, word, hs, hbefore, hafter, hword, hsame⟩
    have htrim : trim s.toList = shown := by
      rw [hs]
      exact trim_padded hbefore (hsame.solid hword.solid) hafter
    rw [htrim, hsame.map_toLower_eq, hword.map_toLower, String.ofList_toList]
    exact hword

theorem parse_eq_ok_iff : parse s = .ok l ↔ Spells l s := by
  rw [← ofWord?_folded_iff, parse]
  generalize ofWord? (String.ofList ((trim s.toList).map Char.toLower)) = read
  cases read with
  | some l => simp
  | none => simp

theorem parse_eq_error_iff {e : Unrecognized} :
    parse s = .error e ↔ e = ⟨s⟩ ∧ ∀ l, ¬ Spells l s := by
  simp only [← ofWord?_folded_iff, parse]
  generalize ofWord? (String.ofList ((trim s.toList).map Char.toLower)) = read
  cases read with
  | some l => simp
  | none => simp [eq_comm]

/-- A text is read as a level exactly if it spells the level, and every other text comes back with
the error as it was given; so a level's name is read as that level in any padding and letter
case. -/
theorem parse_reads_spellings (s : String) :
    (∀ l, parse s = .ok l ↔ Spells l s) ∧
    (∀ e, parse s = .error e ↔ e = ⟨s⟩ ∧ ∀ l, ¬ Spells l s) ∧
    ∀ (l : Level) (before shown after : List Char), s.toList = before ++ shown ++ after →
      (∀ c ∈ before, isWhiteSpace c = true) → (∀ c ∈ after, isWhiteSpace c = true) →
      SameButCase shown l.name.toList → parse s = .ok l := by
  refine ⟨fun l => parse_eq_ok_iff, fun e => parse_eq_error_iff, ?_⟩
  intro l before shown after hs hbefore hafter hsame
  exact parse_eq_ok_iff.2 ⟨before, shown, after, l.name, hs, hbefore, hafter, .name l, hsame⟩

/-- A no-break space, a tab and an ideographic space are padding; a zero-width space is none, and a
dotless `i` is no `i`. -/
theorem parse_reads_spellings_padded :
    ((∀ c ∈ ['\u00a0', '\t'], isWhiteSpace c = true) ∧ (∀ c ∈ ['\u3000'], isWhiteSpace c = true) ∧
      SameButCase "wArNinG".toList warning.name.toList) ∧
    parse "\u00a0\twArNinG\u3000" = .ok warning ∧
    (∀ l, ¬ Spells l "\u200binfo") ∧ ∀ l, ¬ Spells l "\u0131nfo" := by
  have hbefore : ∀ c ∈ ['\u00a0', '\t'], isWhiteSpace c = true := List.all_eq_true.1 rfl
  have hafter : ∀ c ∈ ['\u3000'], isWhiteSpace c = true := List.all_eq_true.1 rfl
  have hsame : SameButCase "wArNinG".toList warning.name.toList := by decide
  refine ⟨⟨hbefore, hafter, hsame⟩, ?_, ?_, ?_⟩
  · exact (parse_reads_spellings _).2.2 warning _ _ _ (by decide) hbefore hafter hsame
  · have hparse : parse "\u200binfo" = .error ⟨"\u200binfo"⟩ := by decide +kernel
    exact (((parse_reads_spellings _).2.1 _).1 hparse).2
  · have hparse : parse "\u0131nfo" = .error ⟨"\u0131nfo"⟩ := by decide +kernel
    exact (((parse_reads_spellings _).2.1 _).1 hparse).2

end Level

end BatchedLog

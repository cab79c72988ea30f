import Mathlib.Data.List.Induction
import TextIntake.Proofs.View.Decoding

set_option autoImplicit false

/-!
# When a view has lines

A view has lines as soon as it has records.  The records come from decoding its bytes as text,
and then one of them stands behind the lines.  But they come from padding too, also where
nothing was decoded as text, and then every record is a line of an empty text.  Which of these
it is can be read off the history: it is settled by the last operation that was not undone.

Main statements: `iff_since`, `isDecoded_iff_decodedAsText` and `lines_after`.
-/

namespace TextIntake.View

/-! ## Operations that are not undone -/

/-- Whether an operation on a view of the given bytes leaves what they were decoded to, apart
from comment flags and padding. -/
def Operation.Keeps (raw : Option Bytes) : Operation → Prop
  | read _ _ | copyBytes _ | reset => False
  | decode e limits r scanner =>
    ∀ bs, raw = some bs → Page.ofBytes e limits r scanner bs = .error .tooLarge
  | adoptCommentFlags _ | padTo _ => True

/-- At some point of the history the view had an operation that counts as an event there, and
since then its bytes were neither replaced nor decoded again. -/
def Since (i : Nat) (event : List Step → Operation → Prop) (history : List Step) : Prop :=
  ∃ earlier operation later, history = earlier ++ ⟨i, operation⟩ :: later ∧
    event earlier operation ∧
    -- the bytes at the end of the history, since what keeps them decoded does not replace them
    ∀ step ∈ later, step.target = i → step.operation.Keeps (after history i).raw

section

variable {i : Nat} {event : List Step → Operation → Prop} {history : List Step}

/-- Bytes that are kept decoded are kept. -/
theorem Operation.Keeps.raw_outcome {raw : Option Bytes} {operation : Operation}
    (h : operation.Keeps raw) (views : Nat → View) (v : View) :
    (operation.outcome views v).raw = v.raw := by
  cases operation with
  | read | copyBytes | reset => exact h.elim
  | decode e limits r scanner =>
    rw [outcome]
    cases hdecode : v.decode? e limits r scanner with
    | none => rfl
    | some decoded => exact raw_decode? hdecode
  | adoptCommentFlags | padTo => rfl

theorem raw_after_append {raw : Option Bytes} (history : List Step) {step : Step}
    (h : step.target = i → step.operation.Keeps raw) :
    (after (history ++ [step]) i).raw = (after history i).raw := by
  obtain ⟨j, operation⟩ := step
  by_cases hj : i = j
  · subst hj
    rw [after_append_target]
    exact (h rfl).raw_outcome _ _
  · rw [after_append_of_ne history operation hj]

/-- The last step is the event, or it does not undo it. -/
theorem since_append {step : Step} :
    Since i event (history ++ [step]) ↔
      (step.target = i ∧ event history step.operation) ∨
        (Since i event history ∧
          (step.target = i → step.operation.Keeps (after history i).raw)) := by
  constructor
  · rintro ⟨earlier, operation, later, hhistory, hevent, hkeeps⟩
    rcases later.eq_nil_or_concat with rfl | ⟨later, last, rfl⟩
    · obtain ⟨rfl, hstep⟩ := List.append_inj' hhistory rfl
      obtain rfl := List.singleton_inj.1 hstep
      exact .inl ⟨rfl, hevent⟩
    · rw [List.concat_eq_append] at hkeeps
      rw [List.concat_eq_append, ← List.cons_append, ← List.append_assoc] at hhistory
      obtain ⟨rfl, hlast⟩ := List.append_inj' hhistory rfl
      obtain rfl := List.singleton_inj.1 hlast
      rw [raw_after_append _ (hkeeps step (by simp))] at hkeeps
      exact .inr ⟨⟨earlier, operation, later, rfl, hevent,
        fun other hother => hkeeps other (by simp [hother])⟩, hkeeps step (by simp)⟩
  · rintro (⟨rfl, hevent⟩ | ⟨⟨earlier, operation, later, hhistory, hevent, hkeeps⟩, hstep⟩)
    · exact ⟨history, step.operation, [], rfl, hevent, by simp⟩
    · refine ⟨earlier, operation, later ++ [step], by simp [hhistory], hevent, ?_⟩
      rw [raw_after_append history hstep]
      intro other hother
      rcases List.mem_append.1 hother with hother | hother
      · exact hkeeps other hother
      · obtain rfl := List.mem_singleton.1 hother
        exact hstep

/-- What holds of a view just when the last operation brought it about, or left it alone, holds
behind a history just when it was brought about and left alone since. -/
theorem iff_since {Q : View → Prop} (hnew : ¬ Q {})
    (houtcome : ∀ history operation,
      Q (operation.outcome (after history) (after history i)) ↔
        event history operation ∨
          (Q (after history i) ∧ operation.Keeps (after history i).raw)) :
    Q (after history i) ↔ Since i event history := by
  induction history using List.reverseRecOn with
  | nil =>
    refine iff_of_false hnew ?_
    rintro ⟨earlier, operation, later, hhistory, -⟩
    simp at hhistory
  | append_singleton history step ih =>
    obtain ⟨j, operation⟩ := step
    rw [since_append, ← ih]
    by_cases hj : i = j
    · subst hj
      rw [after_append_target, houtcome]
      simp
    · rw [after_append_of_ne history operation hj]
      simp [Ne.symm hj]

end

/-! ## What an operation does -/

/-- The operation decodes the bytes of a view, and they are text. -/
def DecodesText (v : View) (operation : Operation) : Prop :=
  ∃ e limits r scanner bs page scanner', operation = .decode e limits r scanner ∧
    v.raw = some bs ∧ Page.ofBytes e limits r scanner bs = .ok (page, scanner')

/-- Nothing but decoding decodes. -/
theorem not_decodesText {v : View} {operation : Operation}
    (h : ∀ e limits r scanner, operation ≠ .decode e limits r scanner) :
    ¬ DecodesText v operation := by
  rintro ⟨e, limits, r, scanner, _, _, _, hoperation, -⟩
  exact h e limits r scanner hoperation

/-- What can become of a view by an operation. -/
inductive Effect (v : View) : Operation → View → Prop where
  | decoded {operation : Operation} {bs : Bytes} {page : Page}
      (text : DecodesText v operation) (wellFormed : page.WellFormed) :
      Effect v operation (ofPage bs page)
  /-- the view is read or reset, or shown not to hold text -/
  | cleared {operation : Operation} (raw : Option Bytes) (notText : ¬ DecodesText v operation)
      (undoes : ¬ operation.Keeps v.raw) : Effect v operation { raw }
  /-- there is nothing to decode, or too much -/
  | unchanged {e : Encoding} {limits : Limits} {r : LineFilter} {scanner : Comment.Scanner}
      (keeps : (Operation.decode e limits r scanner).Keeps v.raw) :
      Effect v (.decode e limits r scanner) v
  | flagged (index : Nat) (other : View) :
      Effect v (.adoptCommentFlags index) (v.adoptCommentFlags other)
  | padded (count : Nat) : Effect v (.padTo count) (v.padTo count)

theorem effect_decode (views : Nat → View) (v : View) (e : Encoding) (limits : Limits)
    (r : LineFilter) (scanner : Comment.Scanner) :
    Effect v (.decode e limits r scanner)
      ((Operation.decode e limits r scanner).outcome views v) := by
  rw [Operation.outcome]
  cases hraw : v.raw with
  | none =>
    rw [decode?_of_unread hraw]
    refine .unchanged fun bs hbs => ?_
    rw [hraw] at hbs
    cases hbs
  | some bs =>
    have hdecoding : Decoding e limits r scanner bs (v.decode? e limits r scanner) :=
      decoding_decode? hraw
    have hbytes : ∀ {bs'}, v.raw = some bs' → bs' = bs := fun hbs' =>
      Option.some.inj (hbs'.symm.trans hraw)
    generalize v.decode? e limits r scanner = decoded at hdecoding
    cases hdecoding with
    | text split =>
      exact .decoded ⟨e, limits, r, scanner, bs, _, _, rfl, hraw, split⟩
        (Page.wellFormed_of_ofBytes split)
    | binary split =>
      refine .cleared (some bs) ?_ fun hkeeps => ?_
      · rintro ⟨_, _, _, _, bs', _, _, hoperation, hbs', htext⟩
        cases hoperation
        rw [hbytes hbs', split] at htext
        cases htext
      · have hlarge := hkeeps bs hraw
        rw [split] at hlarge
        cases hlarge
    | tooLarge split => exact .unchanged fun bs' hbs' => hbytes hbs' ▸ split

theorem effect_outcome (views : Nat → View) (v : View) (operation : Operation) :
    Effect v operation (operation.outcome views v) := by
  cases operation with
  | read tree path =>
    rw [Operation.outcome, View.read]
    split <;> exact .cleared _ (not_decodesText (by simp)) not_false
  | decode e limits r scanner => exact effect_decode views v e limits r scanner
  | copyBytes source => exact .cleared _ (not_decodesText (by simp)) not_false
  | adoptCommentFlags other => exact .flagged other (views other)
  | padTo count => exact .padded count
  | reset => exact .cleared _ (not_decodesText (by simp)) not_false

/-- What is decoded as text is not what was decoded before. -/
theorem DecodesText.not_keeps {v : View} {operation : Operation} (h : DecodesText v operation) :
    ¬ operation.Keeps v.raw := by
  obtain ⟨e, limits, r, scanner, bs, page, scanner', rfl, hraw, htext⟩ := h
  intro hkeeps
  have hlarge := hkeeps bs hraw
  rw [htext] at hlarge
  cases hlarge

/-! ## Decoded as text -/

/-- When the bytes of a view were last decoded, they were text.  They have not been replaced
since, and where decoding them again was tried, they were too large. -/
def DecodedAsText (i : Nat) : List Step → Prop :=
  Since i fun earlier operation => DecodesText (after earlier i) operation

/-- The view was padded to some lines while its bytes, if it had any, were not decoded as text.
They have neither been replaced since nor decoded with success. -/
def PaddedUndecoded (i : Nat) : List Step → Prop :=
  Since i fun earlier operation =>
    ¬ DecodedAsText i earlier ∧ ∃ count, operation = .padTo count ∧ 0 < count

namespace Effect

variable {v w : View} {operation : Operation}

theorem isDecoded_iff (h : Effect v operation w) :
    w.isDecoded = true ↔
      DecodesText v operation ∨ (v.isDecoded = true ∧ operation.Keeps v.raw) := by
  cases h with
  | decoded htext _ => exact iff_of_true rfl (.inl htext)
  | cleared raw hnotText hundoes =>
    refine iff_of_false Bool.false_ne_true ?_
    rintro (htext | ⟨-, hkeeps⟩)
    · exact hnotText htext
    · exact hundoes hkeeps
  | unchanged hkeeps =>
    have hnotText : ¬ DecodesText v (.decode _ _ _ _) := fun htext => htext.not_keeps hkeeps
    simp [hnotText, hkeeps]
  | flagged index other =>
    have hnotText : ¬ DecodesText v (.adoptCommentFlags index) := not_decodesText (by simp)
    simp [hnotText, adoptCommentFlags, Operation.Keeps]
  | padded count =>
    have hnotText : ¬ DecodesText v (.padTo count) := not_decodesText (by simp)
    simp [hnotText, padTo, Operation.Keeps]

/-- Lines without text come from padding. -/
theorem padded_iff (h : Effect v operation w) :
    (w.isDecoded = false ∧ 0 < w.page.lineCount) ↔
      (v.isDecoded = false ∧ ∃ count, operation = .padTo count ∧ 0 < count) ∨
        ((v.isDecoded = false ∧ 0 < v.page.lineCount) ∧ operation.Keeps v.raw) := by
  cases h with
  | decoded htext hpage =>
    refine iff_of_false (fun hw => by cases hw.1) ?_
    rintro (⟨-, count, rfl, -⟩ | ⟨-, hkeeps⟩)
    · exact not_decodesText (by simp) htext
    · exact htext.not_keeps hkeeps
  | cleared raw hnotText hundoes =>
    refine iff_of_false (fun hw => by cases hw.2) ?_
    rintro (⟨-, count, rfl, -⟩ | ⟨-, hkeeps⟩)
    · exact hundoes trivial
    · exact hundoes hkeeps
  | unchanged hkeeps => simp [hkeeps]
  | flagged index other => simp [adoptCommentFlags, Operation.Keeps]
  | padded count =>
    have hcount : 0 < max v.page.lineCount count ↔ 0 < v.page.lineCount ∨ 0 < count := by omega
    simp [padTo, Operation.Keeps, hcount, or_comm, ← and_or_left]

end Effect

/-- Whether a view is marked as text is what its history says. -/
theorem isDecoded_iff_decodedAsText (history : List Step) (i : Nat) :
    (after history i).isDecoded = true ↔ DecodedAsText i history :=
  @iff_since i _ history (·.isDecoded = true) Bool.false_ne_true fun history operation =>
    (effect_outcome (after history) (after history i) operation).isDecoded_iff

theorem padded_iff_paddedUndecoded (history : List Step) (i : Nat) :
    ((after history i).isDecoded = false ∧ 0 < (after history i).page.lineCount) ↔
      PaddedUndecoded i history := by
  refine @iff_since i _ history (fun v => v.isDecoded = false ∧ 0 < v.page.lineCount)
    (fun h => by cases h.2) fun history operation => ?_
  rw [← isDecoded_iff_decodedAsText, Bool.not_eq_true]
  exact (effect_outcome (after history) (after history i) operation).padded_iff

/-! ## The record behind the lines -/

/-- A record stands behind the lines of a view if it was decoded as text, and only then. -/
structure Ends (v : View) : Prop where
  read : v.isDecoded = true → v.raw.isSome = true
  decoded : v.isDecoded = true → v.page.records.length = v.page.lineCount + 1 ∧
    v.page.records.getLast? = some (.emptyAt (Text.byteLength v.page.text))
  undecoded : v.isDecoded = false → v.page.records.length = v.page.lineCount ∧ v.page.text = []

namespace Ends

variable {v : View}

theorem adoptCommentFlags (h : v.Ends) (other : View) : (v.adoptCommentFlags other).Ends where
  read := h.read
  decoded := by
    intro hdecoded
    obtain ⟨hlength, hlast⟩ := h.decoded hdecoded
    refine ⟨(length_adoptFlags _ _ _).trans hlength, (getLast?_adoptFlags ?_).trans hlast⟩
    omega
  undecoded := by
    intro hdecoded
    obtain ⟨hlength, htext⟩ := h.undecoded hdecoded
    exact ⟨(length_adoptFlags _ _ _).trans hlength, htext⟩

theorem padTo (h : v.Ends) (count : Nat) : (v.padTo count).Ends where
  read := h.read
  decoded := by
    intro hdecoded
    obtain ⟨hlength, hlast⟩ := h.decoded hdecoded
    refine ⟨?_, ?_⟩
    · simp only [View.padTo, List.length_append, List.length_replicate]
      omega
    · simp only [View.padTo, List.getLast?_append, List.getLast?_replicate, hlast]
      split <;> rfl
  undecoded := by
    intro hdecoded
    obtain ⟨hlength, htext⟩ := h.undecoded hdecoded
    refine ⟨?_, htext⟩
    simp only [View.padTo, List.length_append, List.length_replicate]
    omega

theorem effect {w : View} {operation : Operation} (h : v.Ends) (heffect : Effect v operation w) :
    w.Ends := by
  cases heffect with
  | decoded _ hpage => exact ⟨fun _ => rfl, fun _ => ⟨hpage.length_records, hpage.sentinel⟩, nofun⟩
  | cleared raw _ _ => exact ⟨nofun, nofun, fun _ => ⟨rfl, rfl⟩⟩
  | unchanged _ => exact h
  | flagged index other => exact h.adoptCommentFlags other
  | padded count => exact h.padTo count

end Ends

theorem ends_after (history : List Step) : ∀ i, (after history i).Ends :=
  forall_after ⟨nofun, nofun, fun _ => ⟨rfl, rfl⟩⟩
    (fun views v operation h => h.effect (effect_outcome views v operation)) history

/-! ## Main statement -/

theorem isSome_lines?_iff {v : View} : v.lines?.isSome = true ↔ v.page.records ≠ [] := by
  rw [Option.isSome_iff_exists]
  constructor
  · rintro ⟨l, hl⟩
    exact (lines?_eq_some_iff.1 hl).1
  · exact fun hne => ⟨_, lines?_eq_some_iff.2 ⟨hne, rfl⟩⟩

/-- **When a view has lines.**  Behind any history a view has lines in two cases, which exclude
each other.  The bytes that it holds were text when they were last decoded: then one record
stands behind those of the lines, and it is empty and at the end of the text.  Or the view was
padded while nothing was decoded as text: then the text is empty, and no record stands behind
the lines.  So having lines means having been decoded as text only for views that were not
padded in this way. -/
theorem lines_after (history : List Step) (i : Nat) :
    let v := after history i
    (v.lines?.isSome = true ↔ DecodedAsText i history ∨ PaddedUndecoded i history) ∧
    ¬ (DecodedAsText i history ∧ PaddedUndecoded i history) ∧
    (DecodedAsText i history → ∃ l, v.lines? = some l ∧ v.raw.isSome = true ∧
      l.records.length = l.count + 1 ∧
      l.records.getLast? = some (.emptyAt (Text.byteLength l.text))) ∧
    (PaddedUndecoded i history → ∃ l, v.lines? = some l ∧ l.text = [] ∧ 0 < l.count ∧
      l.records.length = l.count) ∧
    ((v.lines?.isSome = true ↔ DecodedAsText i history) ↔ ¬ PaddedUndecoded i history) := by
  intro v
  have hends : v.Ends := ends_after history i
  have hdecoded : v.isDecoded = true ↔ DecodedAsText i history :=
    isDecoded_iff_decodedAsText history i
  have hpadded : v.isDecoded = false ∧ 0 < v.page.lineCount ↔ PaddedUndecoded i history :=
    padded_iff_paddedUndecoded history i
  have hexclusive : ¬ (DecodedAsText i history ∧ PaddedUndecoded i history) := by
    rintro ⟨htext, hpad⟩
    exact Bool.false_ne_true ((hpadded.2 hpad).1.symm.trans (hdecoded.2 htext))
  have hlines : v.lines?.isSome = true ↔ DecodedAsText i history ∨ PaddedUndecoded i history := by
    rw [isSome_lines?_iff, ← List.length_pos_iff, ← hdecoded, ← hpadded]
    cases hmark : v.isDecoded with
    | true =>
      obtain ⟨hlength, -⟩ := hends.decoded hmark
      simp [hlength]
    | false =>
      obtain ⟨hlength, -⟩ := hends.undecoded hmark
      simp [hlength]
  refine ⟨hlines, hexclusive, fun htext => ?_, fun hpad => ?_, ?_⟩
  · obtain ⟨hlength, hlast⟩ := hends.decoded (hdecoded.2 htext)
    have hne : v.page.records ≠ [] := List.length_pos_iff.1 (by omega)
    exact ⟨_, lines?_eq_some_iff.2 ⟨hne, rfl⟩, hends.read (hdecoded.2 htext), hlength, hlast⟩
  · obtain ⟨hmark, hcount⟩ := hpadded.2 hpad
    obtain ⟨hlength, htext⟩ := hends.undecoded hmark
    have hne : v.page.records ≠ [] := List.length_pos_iff.1 (by omega)
    exact ⟨_, lines?_eq_some_iff.2 ⟨hne, rfl⟩, htext, hcount, hlength⟩
  · constructor
    · exact fun hiff hpad => hexclusive ⟨hiff.1 (hlines.2 (.inr hpad)), hpad⟩
    · exact fun hnone => hlines.trans (or_iff_left hnone)

/-- A view of one line is decoded and padded to three.  Decoding it again without room for a
line leaves it so.  Another view takes its bytes and is padded to two lines, and decoding it
fails in the same way: it has lines too, but of no text, and with no record behind them. -/
theorem lines_after_of_copy :
    let content : Bytes := [0xEF, 0xBB, 0xBF, 0x61, 0x0A]
    let tree : FileTree := { nodes := [([['f']], .file content)] }
    let history : List Step :=
      [⟨0, .read tree ['/', 'f']⟩, ⟨0, .decode .utf8 ⟨9, 99⟩ {} .absent⟩, ⟨0, .padTo 3⟩,
        ⟨1, .copyBytes 0⟩, ⟨1, .padTo 2⟩, ⟨1, .adoptCommentFlags 0⟩,
        ⟨0, .decode .utf8 ⟨0, 99⟩ {} .absent⟩, ⟨1, .decode .utf8 ⟨0, 99⟩ {} .absent⟩]
    (DecodedAsText 0 history ∧ ¬ PaddedUndecoded 0 history ∧
      ∃ l, (after history 0).lines? = some l ∧ l.records.length = l.count + 1 ∧
        l.records.getLast? = some (.emptyAt (Text.byteLength l.text))) ∧
    (PaddedUndecoded 1 history ∧ ¬ DecodedAsText 1 history ∧
      ∃ l, (after history 1).lines? = some l ∧ l.text = [] ∧ l.records.length = l.count) := by
  intro content tree history
  obtain ⟨-, hexclusive, hdecoded, -, -⟩ := lines_after history 0
  obtain ⟨-, hexclusive', -, hpadded, -⟩ := lines_after history 1
  have htext : DecodedAsText 0 history := (isDecoded_iff_decodedAsText history 0).1 rfl
  have hpad : PaddedUndecoded 1 history :=
    (padded_iff_paddedUndecoded history 1).1 ⟨rfl, by decide⟩
  obtain ⟨l, hl, -, hlength, hlast⟩ := hdecoded htext
  obtain ⟨m, hm, hnone, -, hcount⟩ := hpadded hpad
  exact ⟨⟨htext, fun hpad => hexclusive ⟨htext, hpad⟩, l, hl, hlength, hlast⟩,
    hpad, fun htext => hexclusive' ⟨htext, hpad⟩, m, hm, hnone, hcount⟩

/-- A view that was read and padded to one line, but never decoded, has that line. -/
theorem lines_of_padded_unread :
    let tree : FileTree := { nodes := [([['f']], .file [0x78])] }
    let history : List Step := [⟨0, .read tree ['/', 'f']⟩, ⟨0, .padTo 1⟩]
    (after history 0).lines? = some ⟨[], [.emptyAt 0], 1⟩ ∧ ¬ DecodedAsText 0 history ∧
      ¬ ((after history 0).lines?.isSome = true ↔ DecodedAsText 0 history) := by
  intro tree history
  have hlines : (after history 0).lines? = some ⟨[], [.emptyAt 0], 1⟩ := rfl
  have hundecoded : ¬ DecodedAsText 0 history := by
    rw [← isDecoded_iff_decodedAsText]
    exact Bool.false_ne_true
  refine ⟨hlines, hundecoded, fun hiff => hundecoded (hiff.1 ?_)⟩
  rw [hlines]
  rfl

end TextIntake.View

import TextIntake.Proofs.Bytes
import TextIntake.Proofs.Line.Rewriting

set_option autoImplicit false

/-!
# Documents one behind the other

A line feed is a joint at which a document can be cut, split in two parts and put together
again.  No character of UTF-8 reaches over it, no marker, and no padded end of a line; and
the lines behind it are scanned from the state that the lines before it leave behind.  So
the page of the whole is the page of the first part with the page of the second behind it,
whose records stand as many bytes further on as the first text is long.

Main statements: `decodeText_append_lineFeed`, `cut_append_lineFeed` and
`ofBytes_append_lineFeed`.
-/

namespace TextIntake

/-! ## Bytes and their text -/

namespace Encoding

variable {e : Encoding}

theorem eq_of_sameFamily_utf8 (he : e.sameFamily .utf8 = true) : e = utf8 ∨ e = utf8Marked := by
  cases e with
  | utf8 => exact .inl rfl
  | utf8Marked => exact .inr rfl
  | _ => exact absurd he Bool.false_ne_true

/-- Bytes that do not begin with the marker are left as they are. -/
theorem unmarked_of_no_marker {bs : Bytes} (he : e.sameFamily .utf8 = true)
    (hbs : ¬ Utf8.marker <+: bs) : e.unmarked bs = bs := by
  have hnone : ¬ Utf8.marker.isPrefixOf bs = true := fun h => hbs (List.isPrefixOf_iff_prefix.1 h)
  rcases eq_of_sameFamily_utf8 he with rfl | rfl
  · exact if_neg hnone
  · exact if_neg hnone

/-- A marker does not reach over a line feed. -/
theorem unmarked_append_lineFeed (he : e.sameFamily .utf8 = true) (a b : Bytes) :
    e.unmarked (a ++ 0x0A :: b) = e.unmarked a ++ 0x0A :: b := by
  have hmarker : e.marker? = some Utf8.marker := by
    rcases eq_of_sameFamily_utf8 he with rfl | rfl <;> rfl
  by_cases ha : Utf8.marker <+: a
  · obtain ⟨rest, rfl⟩ := ha
    rw [List.append_assoc, unmarked_marker_append hmarker, unmarked_marker_append hmarker]
  · have hall : ¬ Utf8.marker <+: a ++ 0x0A :: b := fun h =>
      ha (Bytes.starts_of_starts_append_cons (by decide) h)
    rw [unmarked_of_no_marker he ha, unmarked_of_no_marker he hall]

/-- A line feed is read as one, also behind the start of a character that is not finished. -/
theorem decodeText_append_lineFeed (he : e.sameFamily .utf8 = true) (a b : Bytes) :
    e.decodeText (a ++ 0x0A :: b) = e.decodeText a ++ '\n' :: e.decodeText b := by
  have hdecode : e.decode = Utf8.decode := by
    rcases eq_of_sameFamily_utf8 he with rfl | rfl <;> rfl
  have hfeed : Utf8.decode (0x0A :: b) = some '\n' :: Utf8.decode b :=
    Utf8.decode_one (by decide) b
  rw [decodeText, decodeText, decodeText, hdecode, Utf8.decode_append rfl, hfeed, Decoded.text,
    List.map_append]
  rfl

end Encoding

/-! ## Where lines go on -/

namespace Terminator

/-- A padded line feed does not reach over the first line feed. -/
theorem beginsPadded_of_append {front rest : Text} (h : BeginsPadded (front ++ '\n' :: rest)) :
    BeginsPadded (front ++ ['\n']) := by
  obtain ⟨padding, hle, hstarts⟩ := h
  refine ⟨padding, hle, ?_⟩
  clear hle
  induction front generalizing padding with
  | nil =>
    cases padding with
    | zero => exact List.prefix_rfl
    | succ padding =>
      obtain ⟨hnul, _⟩ := List.cons_prefix_cons.1 hstarts
      exact absurd hnul (by decide)
  | cons c front ih =>
    cases padding with
    | zero =>
      obtain ⟨rfl, _⟩ := List.cons_prefix_cons.1 hstarts
      exact List.prefix_append ['\n'] (front ++ ['\n'])
    | succ padding =>
      obtain ⟨rfl, htail⟩ := List.cons_prefix_cons.1 hstarts
      exact List.cons_prefix_cons.2 ⟨rfl, ih padding htail⟩

/-- What a terminator means is settled by the text up to the next line feed. -/
theorem EndsBefore.append {terminator : Terminator} {front : Text}
    (h : terminator.EndsBefore (front ++ ['\n'])) (rest : Text) :
    terminator.EndsBefore (front ++ '\n' :: rest) := by
  cases terminator with
  | lineFeed => trivial
  | carriageLineFeed padding => exact h
  | carriageReturn => exact fun hpadded => h (beginsPadded_of_append hpadded)
  | endOfText => exact absurd h (List.append_ne_nil_of_right_ne_nil front (List.cons_ne_nil _ _))

end Terminator

namespace RawLine

variable {line : RawLine} {lines more : List RawLine} {limit : Nat} {t u : Text}

theorem written_append (lines more : List RawLine) :
    written (lines ++ more) = written lines ++ written more :=
  List.flatMap_append

/-- A line that ends with a line feed ends in front of whatever follows. -/
theorem endsBefore_of_getLast? (hkeeps : ∀ c ∈ line.content, Character.KeepsLine c)
    (hends : line.terminator.EndsBefore []) (hfeed : line.chars.getLast? = some '\n')
    (rest : Text) : line.terminator.EndsBefore rest := by
  obtain ⟨content, terminator⟩ := line
  cases terminator with
  | lineFeed => trivial
  | carriageLineFeed padding => exact hends
  | carriageReturn => simp [chars, Terminator.chars] at hfeed
  | endOfText =>
    rw [chars, Terminator.chars, List.append_nil] at hfeed
    exact absurd rfl (hkeeps '\n' (List.mem_of_getLast? hfeed)).1

/-- Lines that end as they say, the last of them with a line feed, go on with any others. -/
theorem Ended.append (h : Ended lines) (hfeed : (written lines).getLast? = some '\n')
    (hmore : Ended more) : Ended (lines ++ more) := by
  induction lines with
  | nil => exact hmore
  | cons line lines ih =>
    obtain ⟨hkeeps, hfront, hlines⟩ := h
    obtain ⟨hchars, hends⟩ := (endsInFrontOf_iff hlines).1 hfront
    rw [written_cons, List.getLast?_append] at hfeed
    cases hlast : (written lines).getLast? with
    | none =>
      obtain rfl := (written_eq_nil_iff hlines).1 (List.getLast?_eq_none_iff.1 hlast)
      rw [hlast, Option.none_or] at hfeed
      exact ⟨hkeeps, (endsInFrontOf_iff hmore).2
        ⟨hchars, endsBefore_of_getLast? hkeeps hends hfeed (written more)⟩, hmore⟩
    | some c =>
      obtain rfl : c = '\n' := by simpa [hlast] using hfeed
      obtain ⟨front, htext⟩ := List.getLast?_eq_some_iff.1 hlast
      have hall := ih hlines hlast
      refine ⟨hkeeps, (endsInFrontOf_iff hall).2 ⟨hchars, ?_⟩, hall⟩
      rw [htext] at hends
      rw [written_append, htext, List.append_assoc]
      exact hends.append (written more)

/-- The lines up to a line feed and those behind it are the lines of the whole text.  What is
binary in the whole is so in one of the parts, as long as there are not too many lines. -/
theorem cut_append_lineFeed (hfits : cut limit (t ++ '\n' :: u) ≠ .error .tooLarge) :
    (cut limit (t ++ '\n' :: u) = .error .binary ↔
      cut limit (t ++ ['\n']) = .error .binary ∨ cut limit u = .error .binary) ∧
    ∀ raws, cut limit (t ++ '\n' :: u) = .ok raws →
      ∃ front behind, front ≠ [] ∧ raws = front ++ behind ∧
        cut limit (t ++ ['\n']) = .ok front ∧ cut limit u = .ok behind := by
  obtain ⟨front, hfront, hfrontText⟩ := exists_ended (t ++ ['\n'])
  obtain ⟨behind, hbehind, rfl⟩ := exists_ended u
  have hne : front ≠ [] := by
    rintro rfl
    exact absurd hfrontText.symm (List.append_ne_nil_of_right_ne_nil t (List.cons_ne_nil _ _))
  have hall : Ended (front ++ behind) := by
    refine hfront.append ?_ hbehind
    rw [hfrontText, List.getLast?_concat]
  have htext : t ++ '\n' :: written behind = written (front ++ behind) := by
    rw [written_append, hfrontText, List.append_assoc]
    rfl
  rw [htext] at hfits ⊢
  rw [← hfrontText]
  rw [cut_written hall, List.take_append, List.any_append, List.length_append] at hfits ⊢
  rw [cut_written hfront, cut_written hbehind]
  by_cases hfirst : (front.take limit).any hasBinary = true
  · -- binary in the first part, which the whole begins with
    simp [hfirst]
  rw [Bool.not_eq_true] at hfirst
  rw [hfirst, Bool.false_or] at hfits ⊢
  by_cases hroom : limit < front.length
  · -- more lines than allowed in the first part alone
    refine absurd ?_ hfits
    rw [Nat.sub_eq_zero_of_le (Nat.le_of_lt hroom), List.take_zero, List.any_nil,
      if_neg Bool.false_ne_true, if_pos (by omega)]
  by_cases hsecond : (behind.take (limit - front.length)).any hasBinary = true
  · -- binary in the second part, within the room that the first part leaves
    have hmore : (behind.take limit).any hasBinary = true := by
      obtain ⟨line, hline, hbinary⟩ := List.any_eq_true.1 hsecond
      have hprefix := List.take_prefix_take_left (l := behind) (Nat.sub_le limit front.length)
      exact List.any_eq_true.2 ⟨line, hprefix.subset hline, hbinary⟩
    simp [hsecond, hmore]
  · rw [if_neg hsecond] at hfits ⊢
    have hmany : ¬ limit < front.length + behind.length := fun h => hfits (if_pos h)
    rw [List.take_of_length_le (by omega)] at hsecond
    rw [List.take_of_length_le (show behind.length ≤ limit by omega), if_neg hsecond,
      if_neg hmany, if_neg (show ¬ limit < behind.length by omega), if_neg hroom,
      if_neg Bool.false_ne_true]
    refine ⟨by simp, ?_⟩
    rintro raws ⟨⟩
    exact ⟨front, behind, hne, rfl, rfl, rfl⟩

end RawLine

/-! ## Pages -/

theorem Comment.Scanner.after_append (s : Scanner) (lines more : List Text) :
    s.after (lines ++ more) = (s.after lines).after more := by
  induction lines generalizing s with
  | nil => rfl
  | cons line lines ih => exact ih (s.scan line).2

namespace Line

/-- Lines are finished in two goes, the second from the scanner that the first leaves. -/
theorem ofRaws_append (r : LineFilter) (scanner : Comment.Scanner) (raws more : List RawLine) :
    ofRaws r scanner (raws ++ more) =
      ((ofRaws r scanner raws).1 ++ (ofRaws r (ofRaws r scanner raws).2 more).1,
        (ofRaws r (ofRaws r scanner raws).2 more).2) := by
  induction raws generalizing scanner with
  | nil => rfl
  | cons raw raws ih =>
    show (_ :: (ofRaws r (scanner.scan raw.content).2 (raws ++ more)).1,
      (ofRaws r (scanner.scan raw.content).2 (raws ++ more)).2) = _
    rw [ih]
    rfl

end Line

/-- The record of the same line, as many bytes further on. -/
def LineRecord.shift (distance : Nat) (r : LineRecord) : LineRecord :=
  { r with offset := distance + r.offset }

namespace Page

/-- The lines of one page and behind them those of another, with one empty record at the
end. -/
def append (p q : Page) : Page where
  text := p.text ++ q.text
  records := p.records.take p.lineCount ++ q.records.map (.shift (Text.byteLength p.text))
  lineCount := p.lineCount + q.lineCount
  style := p.style
  incomplete := p.incomplete || q.incomplete

theorem recordsFrom_add (distance offset : Nat) (lines : List Line) :
    recordsFrom (distance + offset) lines = (recordsFrom offset lines).map (.shift distance) := by
  induction lines generalizing offset with
  | nil => rfl
  | cons l lines ih =>
    rw [recordsFrom, recordsFrom, List.map_cons, ← ih, LineRecord.shift]
    dsimp only
    rw [Nat.add_assoc distance, Nat.add_assoc distance]

theorem recordsFrom_append (offset : Nat) (lines more : List Line) :
    recordsFrom offset (lines ++ more) =
      (recordsFrom offset lines).take lines.length ++
        recordsFrom (offset + Text.byteLength (join lines)) more := by
  induction lines generalizing offset with
  | nil => rfl
  | cons l lines ih =>
    have hoffset : offset + Text.byteLength (join (l :: lines)) =
        offset + Text.byteLength l.text + 1 + Text.byteLength (join lines) := by
      rw [join_cons, Text.byteLength_append, byteLength_lineFeed_cons]
      omega
    rw [List.cons_append, recordsFrom, ih, recordsFrom, List.length_cons, List.take_succ_cons,
      hoffset]
    rfl

/-- The page of lines that are put together from two parts. -/
theorem ofRaws_append {front : List RawLine} (hne : front ≠ []) (r : LineFilter)
    (scanner : Comment.Scanner) (behind : List RawLine) :
    ofRaws r scanner (front ++ behind) =
      (ofRaws r scanner front).append
        (ofRaws r (scanner.after (front.map RawLine.content)) behind) := by
  have hstyle : RawLine.style (front ++ behind) = RawLine.style front := by
    obtain ⟨line, front, rfl⟩ := List.exists_cons_of_ne_nil hne
    rfl
  have hscanner : (Line.ofRaws r scanner front).2 = scanner.after (front.map RawLine.content) := by
    rw [Line.ofRaws_eq]
  have hrecords := recordsFrom_append 0 (Line.ofRaws r scanner front).1
    (Line.ofRaws r (Line.ofRaws r scanner front).2 behind).1
  rw [Nat.zero_add, ← Nat.add_zero (Text.byteLength _), recordsFrom_add] at hrecords
  rw [← hscanner]
  simp only [ofRaws, ofLines, append, Line.ofRaws_append, join_append, hrecords, hstyle,
    List.length_append, List.any_append]

variable {e : Encoding} {limits : Limits} {a b : Bytes}

/-- A document is cut into lines at a line feed as its text is. -/
theorem rawLines_append_lineFeed (he : e.sameFamily .utf8 = true) (hb : ¬ Utf8.marker <+: b)
    (hfits : rawLines e limits (a ++ 0x0A :: b) ≠ .error .tooLarge) :
    (rawLines e limits (a ++ 0x0A :: b) = .error .binary ↔
      rawLines e limits (a ++ [0x0A]) = .error .binary ∨
        rawLines e limits b = .error .binary) ∧
    ∀ raws, rawLines e limits (a ++ 0x0A :: b) = .ok raws →
      ∃ front behind, front ≠ [] ∧ raws = front ++ behind ∧
        rawLines e limits (a ++ [0x0A]) = .ok front ∧ rawLines e limits b = .ok behind := by
  have hwhole := Encoding.unmarked_append_lineFeed he a b
  have hfront := Encoding.unmarked_append_lineFeed he a []
  have hbehind := Encoding.unmarked_of_no_marker he hb
  simp only [rawLines, payload_eq_unmarked, hwhole, hfront, hbehind,
    Encoding.decodeText_append_lineFeed he, Encoding.decodeText_nil] at hfits ⊢
  have hlength : (e.unmarked a ++ 0x0A :: b).length ≤ limits.maxBytes :=
    Nat.le_of_not_lt fun h => hfits (if_pos h)
  have hlengths := hlength
  rw [List.length_append, List.length_cons] at hlengths
  have hfrontLength : (e.unmarked a ++ [0x0A]).length ≤ limits.maxBytes := by
    rw [List.length_append, List.length_singleton]
    omega
  rw [if_neg (Nat.not_lt.2 hlength)] at hfits ⊢
  rw [if_neg (Nat.not_lt.2 hfrontLength), if_neg (show ¬ limits.maxBytes < b.length by omega)]
  exact RawLine.cut_append_lineFeed hfits

/-- A document is refused for its lines as they are before they are scanned. -/
theorem ofBytes_eq_error_iff {refusal : Refusal} {r : LineFilter} {scanner : Comment.Scanner}
    {bs : Bytes} :
    ofBytes e limits r scanner bs = .error refusal ↔ rawLines e limits bs = .error refusal := by
  rw [ofBytes_eq_map]
  cases rawLines e limits bs with
  | error other => simp [Except.map]
  | ok raws => simp [Except.map]

/-- **Splitting is compositional at a line feed.**  A document that is cut behind a line feed
is binary when one of its parts is.  Otherwise all three are text, and the page of the whole is
that of the first part with that of the second behind it, which is scanned from where the first
part leaves the scanner. -/
theorem ofBytes_append_lineFeed (r : LineFilter) (scanner : Comment.Scanner)
    (he : e.sameFamily .utf8 = true) (hb : ¬ Utf8.marker <+: b)
    (hfits : ofBytes e limits r scanner (a ++ 0x0A :: b) ≠ .error .tooLarge) :
    (∀ scanner', ofBytes e limits r scanner (a ++ 0x0A :: b) = .error .binary ↔
      ofBytes e limits r scanner (a ++ [0x0A]) = .error .binary ∨
        ofBytes e limits r scanner' b = .error .binary) ∧
    (ofBytes e limits r scanner (a ++ 0x0A :: b) ≠ .error .binary →
      ∃ front scanner' behind scanner'',
        ofBytes e limits r scanner (a ++ [0x0A]) = .ok (front, scanner') ∧
        ofBytes e limits r scanner' b = .ok (behind, scanner'') ∧
        ofBytes e limits r scanner (a ++ 0x0A :: b) = .ok (front.append behind, scanner'')) := by
  rw [ne_eq, ofBytes_eq_error_iff] at hfits
  obtain ⟨hbinary, hsplit⟩ := rawLines_append_lineFeed he hb hfits
  refine ⟨?_, ?_⟩
  · intro scanner'
    rw [ofBytes_eq_error_iff, ofBytes_eq_error_iff, ofBytes_eq_error_iff]
    exact hbinary
  · intro htext
    rw [ne_eq, ofBytes_eq_error_iff] at htext
    cases hraws : rawLines e limits (a ++ 0x0A :: b) with
    | error refusal =>
      cases refusal with
      | tooLarge => exact absurd hraws hfits
      | binary => exact absurd hraws htext
    | ok raws =>
      obtain ⟨front, behind, hne, rfl, hfront, hbehind⟩ := hsplit raws hraws
      let scanner' := scanner.after (front.map RawLine.content)
      refine ⟨ofRaws r scanner front, scanner', ofRaws r scanner' behind,
        scanner'.after (behind.map RawLine.content), ?_, ?_, ?_⟩
      · rw [ofBytes_eq_map, hfront]
        rfl
      · rw [ofBytes_eq_map, hbehind]
        rfl
      · rw [ofBytes_eq_map, hraws, ← ofRaws_append hne, ← Comment.Scanner.after_append,
          ← List.map_append]
        rfl

/-- The document `/*`, the start of a character, CR, NUL, LF, `*/X1`, LF behind a marker, cut
behind its first line feed: the comment that is open there is closed in the second part. -/
theorem ofBytes_append_lineFeed_of_open_comment :
    let a : Bytes := [0xEF, 0xBB, 0xBF, 0x2F, 0x2A, 0xE2, 0x82, 0x0D, 0x00]
    let b : Bytes := [0x2A, 0x2F, 0x58, 0x31, 0x0A]
    let r : LineFilter := ⟨true, true, true⟩
    let page : Page :=
      ⟨['\n', 'x', '\n'],
        [⟨0, 0, some 0, true⟩, ⟨1, 1, some 0, false⟩, ⟨3, 0, none, false⟩], 2, .dos, true⟩
    Encoding.utf8.sameFamily .utf8 = true ∧ ¬ Utf8.marker <+: b ∧
      ofBytes .utf8 {} r (.cStyle false) (a ++ 0x0A :: b) = .ok (page, .cStyle false) ∧
      (∀ scanner', ofBytes .utf8 {} r (.cStyle false) (a ++ 0x0A :: b) = .error .binary ↔
        ofBytes .utf8 {} r (.cStyle false) (a ++ [0x0A]) = .error .binary ∨
          ofBytes .utf8 {} r scanner' b = .error .binary) ∧
      ∃ front scanner' behind scanner'',
        ofBytes .utf8 {} r (.cStyle false) (a ++ [0x0A]) = .ok (front, scanner') ∧
        ofBytes .utf8 {} r scanner' b = .ok (behind, scanner'') ∧
        ofBytes .utf8 {} r (.cStyle false) (a ++ 0x0A :: b) =
          .ok (front.append behind, scanner'') := by
  intro a b r page
  have hpage : ofBytes .utf8 {} r (.cStyle false) (a ++ 0x0A :: b) = .ok (page, .cStyle false) :=
    rfl
  have hb : ¬ Utf8.marker <+: b := by decide
  obtain ⟨hbinary, htext⟩ := ofBytes_append_lineFeed r (.cStyle false) rfl hb
    (fun h => by rw [hpage] at h; cases h)
  exact ⟨rfl, hb, hpage, hbinary, htext fun h => by rw [hpage] at h; cases h⟩

end Page

end TextIntake

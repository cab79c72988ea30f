import TextIntake.Proofs.Bytes
import TextIntake.Proofs.Encoding.Label
import TextIntake.Proofs.Encoding.Marker

set_option autoImplicit false

/-!
# What detection finds

A marker decides first, an XML declaration second, and the `meta` tags last, of which the
first one that names an encoding counts.  Here the value of a key, the tags of a head and the
order of precedence are said in terms of what occurs where, and detection is shown to find
exactly that, looking at nothing behind its window.

Main statements: `isValue_iff`, `inTag?_eq_some_iff`, `inMeta?_of_metaTags` and
`detect?_eq_iff`.
-/

namespace TextIntake

namespace Detected

open Bytes (IsFirst breakOn?_eq_some_iff breakOn?_eq_none_iff)

/-- The key of the encoding in an XML declaration. -/
def encodingKey : Bytes := Bytes.ofAscii "encoding="

/-- The key of the encoding in a `meta` tag. -/
def charsetKey : Bytes := Bytes.ofAscii "charset="

/-! ## Values -/

/-- The value at the start of what follows a key. -/
inductive IsValue : Bytes → Bytes → Prop
  /-- The value stands between the first quote character and the next one like it. -/
  | closed {front value rest : Bytes} {quote : UInt8} (hfront : ∀ b ∈ front, isQuote b = false)
      (hquote : isQuote quote = true) (hvalue : quote ∉ value) :
      IsValue (front ++ quote :: (value ++ quote :: rest)) value
  /-- No other quote is like the first one, which ends the value. -/
  | opened {value rest : Bytes} {quote : UInt8} (hvalue : ∀ b ∈ value, isQuote b = false)
      (hquote : isQuote quote = true) (hrest : quote ∉ rest) :
      IsValue (value ++ quote :: rest) value
  /-- There is no quote, and the value is all there is. -/
  | bare {value : Bytes} (hvalue : ∀ b ∈ value, isQuote b = false) : IsValue value value

variable {rest found : Bytes}

/-- What follows a key has one value. -/
theorem exists_isValue (rest : Bytes) : ∃ found, IsValue rest found := by
  cases hfind : rest.find? isQuote with
  | none => exact ⟨rest, .bare fun b hb => Bool.eq_false_iff.2 (List.find?_eq_none.1 hfind b hb)⟩
  | some quote =>
    obtain ⟨hquote, front, inside, rfl, hfront⟩ := List.find?_eq_some_iff_append.1 hfind
    simp only [Bool.not_eq_true'] at hfront
    by_cases hclosed : quote ∈ inside
    · obtain ⟨value, rest, rfl, hvalue⟩ := List.eq_append_cons_of_mem hclosed
      exact ⟨value, .closed hfront hquote hvalue⟩
    · exact ⟨front, .opened hfront hquote hclosed⟩

theorem dropWhile_append_quote {front : Bytes} {quote : UInt8}
    (hfront : ∀ b ∈ front, isQuote b = false) (hquote : isQuote quote = true) (inside : Bytes) :
    (front ++ quote :: inside).dropWhile (!isQuote ·) = quote :: inside := by
  rw [List.dropWhile_append_of_pos (by simpa using hfront), List.dropWhile_cons_of_neg]
  simp [hquote]

theorem value_of_isValue (h : IsValue rest found) : value rest = found := by
  cases h with
  | @closed front _ behind quote hfront hquote hvalue =>
    rw [value, dropWhile_append_quote hfront hquote]
    dsimp only
    rw [if_pos (by simp), List.takeWhile_append_of_pos, List.takeWhile_cons_of_neg (by simp),
      List.append_nil]
    intro b hb
    have hne : b ≠ quote := fun heq => hvalue (heq ▸ hb)
    simpa using hne
  | @opened _ behind quote hvalue hquote hrest =>
    rw [value, dropWhile_append_quote hvalue hquote]
    dsimp only
    rw [if_neg (by simpa using hrest), List.takeWhile_append_of_pos (by simpa using hvalue),
      List.takeWhile_cons_of_neg (by simp [hquote]), List.append_nil]
  | bare hvalue =>
    have hnone : rest.dropWhile (!isQuote ·) = [] := by
      rw [← List.append_nil rest, List.dropWhile_append_of_pos (by simpa using hvalue)]
      rfl
    rw [value, hnone]

/-- The value is the one that the quotes delimit. -/
theorem isValue_iff : IsValue rest found ↔ value rest = found := by
  constructor
  · exact value_of_isValue
  · rintro rfl
    obtain ⟨found, hfound⟩ := exists_isValue rest
    rw [value_of_isValue hfound]
    exact hfound

/-! ## Tags -/

/-- The value of the key in a tag is a label of the encoding. -/
def Names (tag key : Bytes) (e : Encoding) : Prop :=
  ∃ before after label, IsFirst key tag before (key ++ after) ∧
    IsValue after (Utf8.encode label) ∧ Encoding.ofLabel? label = some e

theorem inTag?_of_isFirst {tag key before after : Bytes}
    (hfirst : IsFirst key tag before (key ++ after)) (hvalue : IsValue after found) :
    inTag? tag key = (Utf8.decode? found).bind Encoding.ofLabel? := by
  simp only [inTag?, Option.bind_eq_bind, breakOn?_eq_some_iff.2 hfirst, Option.bind_some,
    List.drop_left, isValue_iff.1 hvalue]

theorem inTag?_eq_some_iff {tag key : Bytes} {e : Encoding} :
    inTag? tag key = some e ↔ Names tag key e := by
  constructor
  · intro h
    obtain ⟨⟨before, rest⟩, hcut, _⟩ := Option.bind_eq_some_iff.1 h
    have hfirst := breakOn?_eq_some_iff.1 hcut
    obtain ⟨after, rfl⟩ := hfirst.starts
    obtain ⟨found, hvalue⟩ := exists_isValue after
    rw [inTag?_of_isFirst hfirst hvalue] at h
    obtain ⟨label, hlabel, hencoding⟩ := Option.bind_eq_some_iff.1 h
    obtain rfl := Utf8.decode?_eq_some_iff.1 hlabel
    exact ⟨before, after, label, hfirst, hvalue, hencoding⟩
  · rintro ⟨before, after, label, hfirst, hvalue, hencoding⟩
    rw [inTag?_of_isFirst hfirst hvalue, Utf8.decode?_eq_some_iff.2 rfl]
    exact hencoding

theorem inTag?_eq_none_iff {tag key : Bytes} : inTag? tag key = none ↔ ∀ e, ¬ Names tag key e := by
  simp only [← inTag?_eq_some_iff]
  exact Option.eq_none_iff_forall_ne_some

/-- The tag of an XML declaration ends at the first end of one. -/
theorem inDeclaration?_eq_some_iff {declaration : Bytes} {e : Encoding} :
    inDeclaration? declaration = some e ↔
      ∃ tag rest, IsFirst xmlClose declaration tag rest ∧ Names tag encodingKey e := by
  simp only [inDeclaration?, Option.bind_eq_bind, Option.bind_eq_some_iff, Prod.exists,
    breakOn?_eq_some_iff]
  exact exists_congr fun tag => exists_congr fun rest =>
    and_congr_right fun _ => inTag?_eq_some_iff

theorem inDeclaration?_eq_none_iff {declaration : Bytes} :
    inDeclaration? declaration = none ↔
      ∀ tag rest e, IsFirst xmlClose declaration tag rest → ¬ Names tag encodingKey e := by
  simp only [Option.eq_none_iff_forall_ne_some, ne_eq, inDeclaration?_eq_some_iff]
  constructor
  · intro h tag rest e hclose hnames
    exact h e ⟨tag, rest, hclose, hnames⟩
  · rintro h e ⟨tag, rest, hclose, hnames⟩
    exact h tag rest e hclose hnames

/-! ## The `meta` tags of a head -/

/-- The `meta` tags of a head one after the other, each cut off at the next end of a tag.  A
tag that is not closed is none, and ends the search. -/
inductive MetaTags : Bytes → List Bytes → Prop
  | absent {head : Bytes} (hopen : ¬ metaOpen <:+: head) : MetaTags head []
  | unclosed {head before tail : Bytes} (hopen : IsFirst metaOpen head before tail)
      (hclose : ¬ metaClose <:+: tail) : MetaTags head []
  | closed {head before tail tag rest : Bytes} {tags : List Bytes}
      (hopen : IsFirst metaOpen head before tail) (hclose : IsFirst metaClose tail tag rest)
      (hrest : MetaTags rest tags) : MetaTags head (tag :: tags)

variable {head before tail tag : Bytes} {tags : List Bytes}

theorem inMeta?_of_absent (hopen : Bytes.breakOn? metaOpen head = none) : inMeta? head = none := by
  rw [inMeta?]
  split
  · rfl
  · rename_i hcut
    rw [hopen] at hcut
    cases hcut

theorem inMeta?_of_opened (hopen : Bytes.breakOn? metaOpen head = some (before, tail)) :
    inMeta? head =
      match Bytes.breakOn? metaClose tail with
      | none => none
      | some (tag, rest) => (inTag? tag charsetKey).or (inMeta? rest) := by
  rw [inMeta?]
  split
  · rename_i hcut
    rw [hopen] at hcut
    cases hcut
  · rename_i hcut
    rw [hopen] at hcut
    obtain ⟨rfl, rfl⟩ := Prod.mk.inj (Option.some.inj hcut)
    split
    · rename_i hclose
      rw [hclose]
    · rename_i tag rest hclose
      rw [hclose]
      dsimp only
      rw [show Bytes.ofAscii "charset=" = charsetKey from rfl]
      cases inTag? tag charsetKey <;> rfl

/-- The search takes the first tag that names an encoding. -/
theorem inMeta?_of_metaTags (h : MetaTags head tags) :
    inMeta? head = tags.findSome? (inTag? · charsetKey) := by
  induction h with
  | absent hopen => exact inMeta?_of_absent (breakOn?_eq_none_iff.2 hopen)
  | unclosed hopen hclose =>
    rw [inMeta?_of_opened (breakOn?_eq_some_iff.2 hopen), breakOn?_eq_none_iff.2 hclose]
    rfl
  | @closed head before tail tag rest tags hopen hclose _ ih =>
    rw [inMeta?_of_opened (breakOn?_eq_some_iff.2 hopen), breakOn?_eq_some_iff.2 hclose]
    dsimp only
    rw [ih, List.findSome?_cons]
    cases inTag? tag charsetKey <;> rfl

/-- A tag takes up five bytes at least. -/
theorem length_add_five_le (hopen : IsFirst metaOpen head before tail)
    (hclose : IsFirst metaClose tail tag rest) : rest.length + 5 ≤ head.length := by
  obtain ⟨behind, rfl⟩ := hclose.starts
  have hstart : metaOpen <+: tag ++ 0x3E :: behind := by
    rw [show tag ++ 0x3E :: behind = tail from hclose.append]
    exact hopen.starts
  have htag : 5 ≤ tag.length :=
    (Bytes.starts_of_starts_append_cons (by decide) hstart).length_le
  have hhead := congrArg List.length hopen.append
  have htail := congrArg List.length hclose.append
  rw [List.length_append] at hhead htail
  omega

/-- The search comes to an end: the tags are no more than fit into the head. -/
theorem exists_metaTags (head : Bytes) :
    ∃ tags, MetaTags head tags ∧ 5 * tags.length ≤ head.length := by
  induction hlength : head.length using Nat.strongRecOn generalizing head with
  | ind n ih =>
    by_cases hopen : metaOpen <:+: head
    · obtain ⟨before, tail, hopen⟩ := Bytes.exists_isFirst hopen
      by_cases hclose : metaClose <:+: tail
      · obtain ⟨tag, rest, hclose⟩ := Bytes.exists_isFirst hclose
        have hshorter := length_add_five_le hopen hclose
        obtain ⟨tags, htags, hcount⟩ := ih rest.length (by omega) rest rfl
        refine ⟨tag :: tags, .closed hopen hclose htags, ?_⟩
        rw [List.length_cons]
        omega
      · exact ⟨[], .unclosed hopen hclose, Nat.zero_le _⟩
    · exact ⟨[], .absent hopen, Nat.zero_le _⟩

/-! ## The order of precedence -/

/-- A marker at the start of a document, and what it shows. -/
def Marks (bs : Bytes) (d : Detected) : Prop :=
  [0xFF, 0xFE] <+: bs ∧ d = ⟨.utf16le, 2⟩ ∨ [0xFE, 0xFF] <+: bs ∧ d = ⟨.utf16be, 2⟩ ∨
    [0xEF, 0xBB, 0xBF] <+: bs ∧ d = ⟨.utf8Marked, 3⟩

theorem byMarker?_eq_some_iff {bs : Bytes} {d : Detected} :
    byMarker? bs = some d ↔ Marks bs d := by
  have hlittle : Utf16.ByteOrder.little.marker = [0xFF, 0xFE] := by decide
  have hbig : Utf16.ByteOrder.big.marker = [0xFE, 0xFF] := by decide
  -- no two markers begin with the same byte
  have hhead {a b : UInt8} {s t : Bytes} (hs : a :: s <+: bs) (ht : b :: t <+: bs) : a = b := by
    obtain ⟨_, rfl⟩ := hs
    exact (List.cons_prefix_cons.1 ht).1.symm
  rw [byMarker?_eq, hlittle, hbig, Utf8.marker, Marks]
  simp only [List.isPrefixOf_iff_prefix]
  split
  · rename_i h
    constructor
    · rintro ⟨⟩
      exact .inl ⟨h, rfl⟩
    · rintro (⟨_, rfl⟩ | ⟨hother, _⟩ | ⟨hother, _⟩)
      · rfl
      · exact absurd (hhead h hother) (by decide)
      · exact absurd (hhead h hother) (by decide)
  split
  · rename_i hnot h
    constructor
    · rintro ⟨⟩
      exact .inr (.inl ⟨h, rfl⟩)
    · rintro (⟨hother, _⟩ | ⟨_, rfl⟩ | ⟨hother, _⟩)
      · exact absurd hother hnot
      · rfl
      · exact absurd (hhead h hother) (by decide)
  split
  · rename_i hnot hneither h
    constructor
    · rintro ⟨⟩
      exact .inr (.inr ⟨h, rfl⟩)
    · rintro (⟨hother, _⟩ | ⟨hother, _⟩ | ⟨_, rfl⟩)
      · exact absurd hother hnot
      · exact absurd hother hneither
      · rfl
  · rename_i hnot hneither hnone
    constructor
    · rintro ⟨⟩
    · rintro (⟨hother, _⟩ | ⟨hother, _⟩ | ⟨hother, _⟩)
      · exact absurd hother hnot
      · exact absurd hother hneither
      · exact absurd hother hnone

/-- What detection finds in a document, by the order of precedence.  Of a document without a
marker only the window counts. -/
inductive Finds (bs : Bytes) : Option Detected → Prop
  | marker {d : Detected} (hmarks : Marks bs d) : Finds bs (some d)
  | declared {before declaration tag rest : Bytes} {e : Encoding} (hmarks : ∀ d, ¬ Marks bs d)
      (hopen : IsFirst xmlOpen (bs.take detectionWindow) before declaration)
      (hclose : IsFirst xmlClose declaration tag rest) (hnames : Names tag encodingKey e) :
      Finds bs (some ⟨e, 0⟩)
  /-- The declaration is not closed, or names no encoding; no tag is looked for then. -/
  | undeclared {before declaration : Bytes} (hmarks : ∀ d, ¬ Marks bs d)
      (hopen : IsFirst xmlOpen (bs.take detectionWindow) before declaration)
      (hnone : ∀ tag rest e, IsFirst xmlClose declaration tag rest → ¬ Names tag encodingKey e) :
      Finds bs none
  | tagged {earlier later : List Bytes} {tag : Bytes} {e : Encoding} (hmarks : ∀ d, ¬ Marks bs d)
      (hopen : ¬ xmlOpen <:+: bs.take detectionWindow)
      (htags : MetaTags (bs.take detectionWindow) (earlier ++ tag :: later))
      (hearlier : ∀ other ∈ earlier, ∀ e, ¬ Names other charsetKey e)
      (hnames : Names tag charsetKey e) : Finds bs (some ⟨e, 0⟩)
  | untagged {tags : List Bytes} (hmarks : ∀ d, ¬ Marks bs d)
      (hopen : ¬ xmlOpen <:+: bs.take detectionWindow)
      (htags : MetaTags (bs.take detectionWindow) tags)
      (hnone : ∀ tag ∈ tags, ∀ e, ¬ Names tag charsetKey e) : Finds bs none

end Detected

open Detected Bytes

section

variable {bs : Bytes} {found : Option Detected}

/-- Without a marker, tags in the window decide. -/
theorem detect?_of_not_marks (hmarks : ∀ d, ¬ Marks bs d) :
    detect? bs = (byTag? (bs.take detectionWindow)).map fun e => ⟨e, 0⟩ := by
  have hnone : byMarker? bs = none :=
    Option.eq_none_iff_forall_ne_some.2 fun d hd => hmarks d (byMarker?_eq_some_iff.1 hd)
  rw [detect?, hnone]

/-- An XML declaration is the only tag that counts. -/
theorem detect?_of_xmlOpen {before declaration : Bytes} (hmarks : ∀ d, ¬ Marks bs d)
    (hopen : IsFirst xmlOpen (bs.take detectionWindow) before declaration) :
    detect? bs = (inDeclaration? declaration).map fun e => ⟨e, 0⟩ := by
  rw [detect?_of_not_marks hmarks, byTag?, breakOn?_eq_some_iff.2 hopen]

/-- Without a declaration, the `meta` tags decide. -/
theorem detect?_of_not_xmlOpen (hmarks : ∀ d, ¬ Marks bs d)
    (hopen : ¬ xmlOpen <:+: bs.take detectionWindow) :
    detect? bs = (inMeta? (bs.take detectionWindow)).map fun e => ⟨e, 0⟩ := by
  rw [detect?_of_not_marks hmarks, byTag?, breakOn?_eq_none_iff.2 hopen]

theorem finds_detect? (bs : Bytes) : Finds bs (detect? bs) := by
  by_cases hmarks : ∃ d, Marks bs d
  · obtain ⟨d, hmarks⟩ := hmarks
    rw [detect?, byMarker?_eq_some_iff.2 hmarks]
    exact .marker hmarks
  have hmarks := not_exists.1 hmarks
  by_cases hopen : xmlOpen <:+: bs.take detectionWindow
  · obtain ⟨before, declaration, hopen⟩ := Bytes.exists_isFirst hopen
    rw [detect?_of_xmlOpen hmarks hopen]
    cases hdeclaration : inDeclaration? declaration with
    | none => exact .undeclared hmarks hopen (inDeclaration?_eq_none_iff.1 hdeclaration)
    | some e =>
      obtain ⟨tag, rest, hclose, hnames⟩ := inDeclaration?_eq_some_iff.1 hdeclaration
      exact .declared hmarks hopen hclose hnames
  · obtain ⟨tags, htags, _⟩ := exists_metaTags (bs.take detectionWindow)
    rw [detect?_of_not_xmlOpen hmarks hopen, inMeta?_of_metaTags htags]
    cases hfind : tags.findSome? (inTag? · charsetKey) with
    | none =>
      refine .untagged hmarks hopen htags fun tag htag => ?_
      exact inTag?_eq_none_iff.1 (List.findSome?_eq_none_iff.1 hfind tag htag)
    | some e =>
      obtain ⟨earlier, tag, later, rfl, hnames, hearlier⟩ := List.findSome?_eq_some_iff.1 hfind
      exact .tagged hmarks hopen htags
        (fun other hother => inTag?_eq_none_iff.1 (hearlier other hother))
        (inTag?_eq_some_iff.1 hnames)

theorem detect?_of_finds (h : Finds bs found) : detect? bs = found := by
  cases h with
  | marker hmarks => rw [detect?, byMarker?_eq_some_iff.2 hmarks]
  | declared hmarks hopen hclose hnames =>
    rw [detect?_of_xmlOpen hmarks hopen, inDeclaration?_eq_some_iff.2 ⟨_, _, hclose, hnames⟩]
    rfl
  | undeclared hmarks hopen hnone =>
    rw [detect?_of_xmlOpen hmarks hopen, inDeclaration?_eq_none_iff.2 hnone]
    rfl
  | @tagged earlier later tag e hmarks hopen htags hearlier hnames =>
    have hfind : (earlier ++ tag :: later).findSome? (inTag? · charsetKey) = some e :=
      List.findSome?_eq_some_iff.2 ⟨earlier, tag, later, rfl, inTag?_eq_some_iff.2 hnames,
        fun other hother => inTag?_eq_none_iff.2 (hearlier other hother)⟩
    rw [detect?_of_not_xmlOpen hmarks hopen, inMeta?_of_metaTags htags, hfind]
    rfl
  | @untagged tags hmarks hopen htags hnone =>
    have hfind : tags.findSome? (inTag? · charsetKey) = none :=
      List.findSome?_eq_none_iff.2 fun tag htag => inTag?_eq_none_iff.2 (hnone tag htag)
    rw [detect?_of_not_xmlOpen hmarks hopen, inMeta?_of_metaTags htags, hfind]
    rfl

end

/-- A marker does not reach out of the window. -/
theorem marks_take_iff {bs : Bytes} {d : Detected} :
    Marks (bs.take detectionWindow) d ↔ Marks bs d := by
  have hshort {marker : Bytes} (hlength : marker.length ≤ detectionWindow) :
      marker <+: bs.take detectionWindow ↔ marker <+: bs := by
    rw [List.prefix_take_iff]
    exact and_iff_left hlength
  rw [Marks, Marks, hshort (by decide), hshort (by decide), hshort (by decide)]

/-- Detection looks at nothing behind its window. -/
theorem detect?_take (bs : Bytes) : detect? (bs.take detectionWindow) = detect? bs := by
  have hwindow : (bs.take detectionWindow).take detectionWindow = bs.take detectionWindow := by
    rw [List.take_take, Nat.min_self]
  by_cases hmarks : ∃ d, Marks bs d
  · obtain ⟨d, hmarks⟩ := hmarks
    rw [detect?_of_finds (.marker (marks_take_iff.2 hmarks)), detect?_of_finds (.marker hmarks)]
  · have hmarks := not_exists.1 hmarks
    have htaken : ∀ d, ¬ Marks (bs.take detectionWindow) d :=
      fun d htaken => hmarks d (marks_take_iff.1 htaken)
    rw [detect?_of_not_marks htaken, detect?_of_not_marks hmarks, hwindow]

/-- **Detection follows its order of precedence on the window and nothing else.**  What it
finds in any document is what a marker at the start shows; without a marker, what the XML
declaration in the window names, where none of its tags is looked at if there is one; and
without a declaration, what the first telling `meta` tag of the window names.  The tags of any
head are a list of bounded length, so that the search for one ends; documents that agree in
the window are not told apart; and detecting from the head that is read of a file finds what
detecting from its whole content does. -/
theorem detect?_eq_iff :
    (∀ bs found, detect? bs = found ↔ Finds bs found) ∧
      (∀ head, ∃ tags, MetaTags head tags ∧ 5 * tags.length ≤ head.length) ∧
      (∀ bs bs', bs.take detectionWindow = bs'.take detectionWindow → detect? bs = detect? bs') ∧
      ∀ bs, detectFromHead? bs = detect? bs := by
  refine ⟨fun bs found => ⟨?_, detect?_of_finds⟩, exists_metaTags, ?_, detect?_take⟩
  · rintro rfl
    exact finds_detect? bs
  · intro bs bs' hwindow
    rw [← detect?_take bs, hwindow, detect?_take bs']

/-- What stands behind five thousand bytes makes no difference. -/
theorem detect?_eq_iff_of_long :
    (List.replicate detectionWindow 0x20).take detectionWindow =
        (List.replicate detectionWindow 0x20 ++ Bytes.ofAscii "<meta charset=latin1>").take
          detectionWindow ∧
      detect? (List.replicate detectionWindow 0x20) =
        detect? (List.replicate detectionWindow 0x20 ++ Bytes.ofAscii "<meta charset=latin1>") := by
  have hwindow : (List.replicate detectionWindow 0x20).take detectionWindow =
      (List.replicate detectionWindow 0x20 ++ Bytes.ofAscii "<meta charset=latin1>").take
        detectionWindow := by
    rw [List.take_append_of_le_length (Nat.le_of_eq List.length_replicate.symm)]
  exact ⟨hwindow, detect?_eq_iff.2.2.1 _ _ hwindow⟩

end TextIntake

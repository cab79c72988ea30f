import TextIntake.Proofs.Encoding.Detection

set_option autoImplicit false

/-!
# Encodings that documents declare

A document declares its encoding in one of a few ways, and detection is meant to find what it
declares.  It does whenever the label stands in quotes of its own, in an XML declaration as
in a `meta` tag.  Where the label is the end of a quoted `content`, it stands in front of a
quote that closes, which the search for the value takes for one that opens: the label is found
only if no such quote follows in the tag.

Main statements: `detect?_of_quoted` and `detect?_of_content`.
-/

namespace TextIntake

namespace Detected

open Bytes (IsFirst breakOn?_eq_some_iff)

variable {label : Text} {e : Encoding} {quote : UInt8}
  {bs start front inside before content between after rest : Bytes}

/-! ## A label in quotes -/

/-- A label in quotes. -/
def quoted (quote : UInt8) (label : Text) : Bytes := quote :: (Utf8.encode label ++ [quote])

/-- Attributes in which a label in quotes is the value of a key. -/
def attributes (key before : Bytes) (quote : UInt8) (label : Text) (after : Bytes) : Bytes :=
  before ++ key ++ (quoted quote label ++ after)

theorem isQuote_iff {b : UInt8} : isQuote b = true ↔ b = 0x22 ∨ b = 0x27 := by
  simp [isQuote]

/-- No label of an encoding holds a quote. -/
theorem isQuote_of_mem_encode (hlabel : Encoding.ofLabel? label = some e) {b : UInt8}
    (hb : b ∈ Utf8.encode label) : isQuote b = false := by
  refine Bool.eq_false_iff.2 fun hquote => ?_
  have hdelimiter : b ∈ Encoding.delimiters := by
    rcases isQuote_iff.1 hquote with rfl | rfl <;> decide
  exact Encoding.not_mem_encode_of_ofLabel? hlabel hdelimiter hb

/-- A label in quotes is the value, whatever follows. -/
theorem isValue_quoted (hlabel : Encoding.ofLabel? label = some e) (hquote : isQuote quote = true)
    (after : Bytes) : IsValue (quoted quote label ++ after) (Utf8.encode label) := by
  have hinside : quote ∉ Utf8.encode label := by
    intro hmem
    rw [isQuote_of_mem_encode hlabel hmem] at hquote
    cases hquote
  have hvalue : IsValue ([] ++ quote :: (Utf8.encode label ++ quote :: after)) (Utf8.encode label) :=
    .closed nofun hquote hinside
  simpa [quoted] using hvalue

/-- The first key of a tag is the one behind attributes without it. -/
theorem isFirst_key {b : UInt8} {t : Bytes} (hb : b ∉ t) (hstart : b ∉ start)
    (hbefore : ¬ (b :: t) <:+: before) (after : Bytes) :
    IsFirst (b :: t) (start ++ (before ++ b :: t ++ after)) (start ++ before) (b :: t ++ after) := by
  rw [List.append_assoc before, ← List.append_assoc start]
  exact .of_not_occurs hb (Bytes.not_occurs_append hstart hbefore) after

/-! ## XML declarations -/

/-- The end of a declaration does not occur before the declaration ends. -/
theorem not_xmlClose_occurs (hlabel : Encoding.ofLabel? label = some e)
    (hquote : isQuote quote = true) (hbefore : ¬ xmlClose <:+: before)
    (hafter : ¬ xmlClose <:+: after) :
    ¬ xmlClose <:+: xmlOpen ++ attributes encodingKey before quote label after := by
  have hvalue : 0x3F ∉ Bytes.ofAscii "ncoding=" ++ quoted quote label := by
    have hlabel : 0x3F ∉ Utf8.encode label :=
      Encoding.not_mem_encode_of_ofLabel? hlabel (by decide)
    rcases isQuote_iff.1 hquote with rfl | rfl <;> simpa [quoted, Bytes.ofAscii] using hlabel
  have hbehind : ¬ xmlClose <:+: Bytes.ofAscii "ncoding=" ++ quoted quote label ++ after :=
    Bytes.not_occurs_append hvalue hafter
  -- no end reaches over the first letter of the key, nor over the `x` of the start
  have hinside : ¬ xmlClose <:+:
      before ++ 0x65 :: (Bytes.ofAscii "ncoding=" ++ quoted quote label ++ after) :=
    Bytes.not_occurs_append_cons (by decide) hbefore hbehind
  have hopen : ¬ xmlClose <:+: [0x3C, 0x3F] ++ 0x78 :: ([0x6D, 0x6C] ++
      (before ++ 0x65 :: (Bytes.ofAscii "ncoding=" ++ quoted quote label ++ after))) :=
    Bytes.not_occurs_append_cons (by decide) (by decide)
      (Bytes.not_occurs_append (by decide) hinside)
  simpa [xmlOpen, attributes, encodingKey, Bytes.ofAscii] using hopen

/-- A document that begins with a tag has no marker. -/
theorem not_marks_of_tag (h : [0x3C] <+: bs) (d : Detected) : ¬ Marks bs d := by
  obtain ⟨_, rfl⟩ := h
  rintro (⟨h, _⟩ | ⟨h, _⟩ | ⟨h, _⟩)
  all_goals exact absurd (List.cons_prefix_cons.1 h).1 (by decide)

theorem detect?_of_declaration (hlabel : Encoding.ofLabel? label = some e)
    (hquote : isQuote quote = true) (hkey : ¬ encodingKey <:+: before)
    (hbefore : ¬ xmlClose <:+: before) (hafter : ¬ xmlClose <:+: after)
    (hwithin : (xmlOpen ++ attributes encodingKey before quote label after ++ xmlClose).length ≤
      detectionWindow) :
    detect? (xmlOpen ++ attributes encodingKey before quote label after ++ xmlClose ++ rest) =
      some ⟨e, 0⟩ := by
  generalize htag : xmlOpen ++ attributes encodingKey before quote label after = tag at hwithin ⊢
  have hnames : Names tag encodingKey e := by
    rw [← htag]
    exact ⟨_, _, label, isFirst_key (by decide) (by decide) hkey _,
      isValue_quoted hlabel hquote after, hlabel⟩
  have hstarts : xmlOpen <+: tag ++ xmlClose ++ rest := by
    rw [← htag, List.append_assoc, List.append_assoc]
    exact List.prefix_append xmlOpen _
  have hopen : IsFirst xmlOpen ((tag ++ xmlClose ++ rest).take detectionWindow) []
      ((tag ++ xmlClose ++ rest).take detectionWindow) :=
    .of_starts (List.prefix_take_iff.2 ⟨hstarts, by decide⟩)
  have hclose : IsFirst xmlClose ((tag ++ xmlClose ++ rest).take detectionWindow) tag
      (xmlClose ++ rest.take (detectionWindow - (tag ++ xmlClose).length)) := by
    have hnone : ¬ xmlClose <:+: tag := htag ▸ not_xmlClose_occurs hlabel hquote hbefore hafter
    rw [List.take_append, List.take_of_length_le hwithin, List.append_assoc]
    exact .of_not_occurs (by decide) hnone _
  have hmarks := not_marks_of_tag ((show [0x3C] <+: xmlOpen by decide).trans hstarts)
  exact detect?_of_finds (.declared hmarks hopen hclose hnames)

/-! ## The first `meta` tag -/

/-- A document has neither a marker nor an XML declaration, and the first `meta` tag of it,
which holds `inside`, ends in the window. -/
structure IsTagged (bs front inside rest : Bytes) : Prop where
  append : front ++ metaOpen ++ inside ++ metaClose ++ rest = bs
  unmarked : ∀ d, ¬ Marks bs d
  undeclared : ¬ xmlOpen <:+: bs.take detectionWindow
  first : ¬ metaOpen <:+: front
  closed : 0x3E ∉ inside
  within : (front ++ metaOpen ++ inside ++ metaClose).length ≤ detectionWindow

theorem isTagged_iff : IsTagged bs front inside rest ↔
    front ++ metaOpen ++ inside ++ metaClose ++ rest = bs ∧ byMarker? bs = none ∧
      ¬ xmlOpen <:+: bs.take detectionWindow ∧ ¬ metaOpen <:+: front ∧ 0x3E ∉ inside ∧
      (front ++ metaOpen ++ inside ++ metaClose).length ≤ detectionWindow := by
  simp only [Option.eq_none_iff_forall_ne_some, ne_eq, byMarker?_eq_some_iff]
  constructor
  · intro h
    exact ⟨h.append, h.unmarked, h.undeclared, h.first, h.closed, h.within⟩
  · rintro ⟨happend, hunmarked, hundeclared, hfirst, hclosed, hwithin⟩
    exact ⟨happend, hunmarked, hundeclared, hfirst, hclosed, hwithin⟩

instance (bs front inside rest : Bytes) : Decidable (IsTagged bs front inside rest) :=
  -- named, so that it is the same one whichever instances are in scope
  letI : ∀ s t : Bytes, Decidable (s <:+: t) := List.instDecidableIsInfixOfDecidableEq
  decidable_of_iff _ isTagged_iff.symm

/-- The window from the end of the first tag on. -/
def behindTag (front inside rest : Bytes) : Bytes :=
  metaClose ++ rest.take (detectionWindow - (front ++ metaOpen ++ inside ++ metaClose).length)

/-- What the first tag names counts, and if it names nothing, what the tags behind it name. -/
theorem detect?_of_isTagged (h : IsTagged bs front inside rest) :
    detect? bs = ((inTag? (metaOpen ++ inside) charsetKey).or
      (inMeta? (behindTag front inside rest))).map fun e => ⟨e, 0⟩ := by
  have hwindow : bs.take detectionWindow =
      front ++ (metaOpen ++ (inside ++ behindTag front inside rest)) := by
    rw [← h.append, List.take_append, List.take_of_length_le h.within, behindTag]
    simp only [List.append_assoc]
  have hopen : IsFirst metaOpen (bs.take detectionWindow) front
      (metaOpen ++ (inside ++ behindTag front inside rest)) := by
    rw [hwindow]
    exact .of_not_occurs (by decide) h.first _
  have hclose : IsFirst metaClose (metaOpen ++ (inside ++ behindTag front inside rest))
      (metaOpen ++ inside) (behindTag front inside rest) := by
    have hnone : ¬ metaClose <:+: metaOpen ++ inside := by
      intro hoccurs
      rcases List.mem_append.1 (hoccurs.subset List.mem_cons_self) with hmem | hmem
      · exact absurd hmem (by decide)
      · exact h.closed hmem
    rw [← List.append_assoc]
    exact .of_not_occurs List.not_mem_nil hnone _
  rw [detect?_of_not_xmlOpen h.unmarked h.undeclared,
    inMeta?_of_opened (breakOn?_eq_some_iff.2 hopen), breakOn?_eq_some_iff.2 hclose]

theorem detect?_of_charset (hlabel : Encoding.ofLabel? label = some e)
    (hquote : isQuote quote = true) (hbefore : ¬ charsetKey <:+: before)
    (h : IsTagged bs front (attributes charsetKey before quote label after) rest) :
    detect? bs = some ⟨e, 0⟩ := by
  have hnames : Names (metaOpen ++ attributes charsetKey before quote label after) charsetKey e :=
    ⟨_, _, label, isFirst_key (by decide) (by decide) hbefore _,
      isValue_quoted hlabel hquote after, hlabel⟩
  rw [detect?_of_isTagged h, inTag?_eq_some_iff.2 hnames]
  rfl

/-! ## A label at the end of a content -/

/-- Attributes in which a label is the end of a quoted content. -/
def contentAttributes (before content : Bytes) (label : Text) (after : Bytes) : Bytes :=
  before ++ Bytes.ofAscii " content=\"" ++ content ++ charsetKey ++
    (Utf8.encode label ++ 0x22 :: after)

theorem isFirst_of_content (hbefore : ¬ charsetKey <:+: before)
    (hcontent : ¬ charsetKey <:+: content) (label : Text) (after : Bytes) :
    IsFirst charsetKey (metaOpen ++ contentAttributes before content label after)
      (metaOpen ++ (before ++ Bytes.ofAscii " content=\"" ++ content))
      (charsetKey ++ (Utf8.encode label ++ 0x22 :: after)) := by
  -- the key reaches neither over the blank in front of the content nor over its quote
  have hquoted : ¬ charsetKey <:+: Bytes.ofAscii "content=" ++ 0x22 :: content :=
    Bytes.not_occurs_append_cons (by decide) (by decide +kernel) hcontent
  have hstart : ¬ charsetKey <:+: before ++ 0x20 :: (Bytes.ofAscii "content=" ++ 0x22 :: content) :=
    Bytes.not_occurs_append_cons (by decide) hbefore hquoted
  have hopen : ¬ charsetKey <:+: before ++ Bytes.ofAscii " content=\"" ++ content := by
    simpa [Bytes.ofAscii] using hstart
  exact isFirst_key (by decide) (by decide) hopen _

/-- The quote behind the label is the only one, and ends the value. -/
theorem detect?_of_last_content (hlabel : Encoding.ofLabel? label = some e)
    (hbefore : ¬ charsetKey <:+: before) (hcontent : ¬ charsetKey <:+: content)
    (hafter : 0x22 ∉ after)
    (h : IsTagged bs front (contentAttributes before content label after) rest) :
    detect? bs = some ⟨e, 0⟩ := by
  have hvalue : IsValue (Utf8.encode label ++ 0x22 :: after) (Utf8.encode label) :=
    .opened (fun _ => isQuote_of_mem_encode hlabel) (by decide) hafter
  have hnames : Names (metaOpen ++ contentAttributes before content label after) charsetKey e :=
    ⟨_, _, label, isFirst_of_content hbefore hcontent label after, hvalue, hlabel⟩
  rw [detect?_of_isTagged h, inTag?_eq_some_iff.2 hnames]
  rfl

/-- The quote behind the label is the first of a pair, and the value stands between the two. -/
theorem detect?_of_closed_content (hlabel : Encoding.ofLabel? label = some e)
    (hbefore : ¬ charsetKey <:+: before) (hcontent : ¬ charsetKey <:+: content)
    (hbetween : 0x22 ∉ between)
    (h : IsTagged bs front
      (contentAttributes before content label (between ++ 0x22 :: after)) rest) :
    detect? bs = (((Utf8.decode? between).bind Encoding.ofLabel?).or
      (inMeta? (behindTag front
        (contentAttributes before content label (between ++ 0x22 :: after)) rest))).map
          fun e => ⟨e, 0⟩ := by
  have hvalue : IsValue (Utf8.encode label ++ 0x22 :: (between ++ 0x22 :: after)) between :=
    .closed (fun _ => isQuote_of_mem_encode hlabel) (by decide) hbetween
  rw [detect?_of_isTagged h, inTag?_of_isFirst (isFirst_of_content hbefore hcontent label _) hvalue]

end Detected

open Detected

/-- **An encoding declared in quotes is found.**  In an XML declaration it is the value of the
first key `encoding=`, and the declaration may hold anything else but an end of its own.  In
the first `meta` tag of a document that has neither a marker nor an XML declaration it is the
value of the first key `charset=`, and the tag may hold anything else but a `>`.  The label
itself need not be kept from holding a quote or an end, as no label does that names an
encoding. -/
theorem detect?_of_quoted :
    (∀ (label : Text) (e : Encoding) (quote : UInt8) (before after rest : Bytes),
      Encoding.ofLabel? label = some e → isQuote quote = true →
      ¬ encodingKey <:+: before → ¬ xmlClose <:+: before → ¬ xmlClose <:+: after →
      (xmlOpen ++ attributes encodingKey before quote label after ++ xmlClose).length ≤
        detectionWindow →
      detect? (xmlOpen ++ attributes encodingKey before quote label after ++ xmlClose ++ rest) =
        some ⟨e, 0⟩) ∧
    ∀ (label : Text) (e : Encoding) (quote : UInt8) (bs front before after rest : Bytes),
      Encoding.ofLabel? label = some e → isQuote quote = true → ¬ charsetKey <:+: before →
      IsTagged bs front (attributes charsetKey before quote label after) rest →
      detect? bs = some ⟨e, 0⟩ := by
  constructor
  · intro label e quote before after rest hlabel hquote hkey hbefore hafter hwithin
    exact detect?_of_declaration hlabel hquote hkey hbefore hafter hwithin
  · intro label e quote bs front before after rest hlabel hquote hbefore h
    exact detect?_of_charset hlabel hquote hbefore h

/-- A quote of the other kind, a question mark or a lone bracket in front of the label does not
matter. -/
theorem detect?_of_quoted_latin1 :
    detect? (Bytes.ofAscii "<?xml version=\"1.0?\" encoding='latin1' ?><a/>") =
        some ⟨.latin1, 0⟩ ∧
      detect? (Bytes.ofAscii "<html><meta name='it' charset=\"Latin1\" id='<meta'><p>") =
        some ⟨.latin1, 0⟩ := by
  have hdeclared : Bytes.ofAscii "<?xml version=\"1.0?\" encoding='latin1' ?><a/>" =
      xmlOpen ++ attributes encodingKey (Bytes.ofAscii " version=\"1.0?\" ") 0x27 "latin1".toList
        [0x20] ++ xmlClose ++ Bytes.ofAscii "<a/>" := by decide +kernel
  have htagged : IsTagged
      (Bytes.ofAscii "<html><meta name='it' charset=\"Latin1\" id='<meta'><p>")
      (Bytes.ofAscii "<html>")
      (attributes charsetKey (Bytes.ofAscii " name='it' ") 0x22 "Latin1".toList
        (Bytes.ofAscii " id='<meta'"))
      (Bytes.ofAscii "<p>") := by
    decide +kernel
  constructor
  · rw [hdeclared]
    exact detect?_of_quoted.1 _ _ _ _ _ _ (by decide +kernel) rfl (by decide +kernel)
      (by decide +kernel) (by decide +kernel) (by decide +kernel)
  · exact detect?_of_quoted.2 _ _ _ _ _ _ _ _ (by decide +kernel) rfl (by decide +kernel) htagged

/-- **A label at the end of a quoted content is found only if the tag holds no further double
quote.**  The label stands in the first `meta` tag of a document that has neither a marker nor
an XML declaration, behind a content that holds no key.  If there is a further quote, the bytes
between the end of the content and that quote are taken for the label, whatever the label is;
and if they name no encoding, what the tags behind this one name is found. -/
theorem detect?_of_content {label : Text} {e : Encoding} {bs front before content after rest : Bytes}
    (hlabel : Encoding.ofLabel? label = some e) (hbefore : ¬ charsetKey <:+: before)
    (hcontent : ¬ charsetKey <:+: content)
    (h : IsTagged bs front (contentAttributes before content label after) rest) :
    (0x22 ∉ after → detect? bs = some ⟨e, 0⟩) ∧
      ∀ value more, after = value ++ 0x22 :: more → 0x22 ∉ value →
        detect? bs = (((Utf8.decode? value).bind Encoding.ofLabel?).or
          (inMeta? (behindTag front (contentAttributes before content label after) rest))).map
            fun e => ⟨e, 0⟩ := by
  constructor
  · intro hafter
    exact detect?_of_last_content hlabel hbefore hcontent hafter h
  · rintro value more rfl hvalue
    exact detect?_of_closed_content hlabel hbefore hcontent hvalue h

/-- The label is found at the end of a tag, and another one in front of a further quote. -/
theorem detect?_of_content_utf8 :
    detect? (Bytes.ofAscii "<meta name='a' content=\"text/html; charset=utf-8\">") =
        some ⟨.utf8, 0⟩ ∧
      detect? (Bytes.ofAscii "<meta content=\"text/html; charset=utf-8\" latin1 \"\">") =
        some ⟨.latin1, 0⟩ := by
  have hlast : IsTagged (Bytes.ofAscii "<meta name='a' content=\"text/html; charset=utf-8\">") []
      (contentAttributes (Bytes.ofAscii " name='a'") (Bytes.ofAscii "text/html; ") "utf-8".toList [])
      [] := by
    decide +kernel
  have hclosed : IsTagged
      (Bytes.ofAscii "<meta content=\"text/html; charset=utf-8\" latin1 \"\">") []
      (contentAttributes [] (Bytes.ofAscii "text/html; ") "utf-8".toList
        (Bytes.ofAscii " latin1 " ++ 0x22 :: [0x22])) [] := by
    decide +kernel
  have hlabel : Encoding.ofLabel? "utf-8".toList = some .utf8 := by decide +kernel
  have hvalue : (Utf8.decode? (Bytes.ofAscii " latin1 ")).bind Encoding.ofLabel? = some .latin1 := by
    decide +kernel
  constructor
  · exact (detect?_of_content hlabel (by decide +kernel) (by decide +kernel) hlast).1 nofun
  · rw [(detect?_of_content hlabel (by decide +kernel) (by decide +kernel) hclosed).2 _ _ rfl
      (by decide +kernel), hvalue]
    rfl

/-- The label of a content in front of another quoted attribute is not found. -/
theorem detect?_of_content_in_front :
    Encoding.ofLabel? "utf-8".toList = some .utf8 ∧ ¬ charsetKey <:+: [] ∧
      ¬ charsetKey <:+: Bytes.ofAscii "text/html; " ∧
      (∀ b ∈ Bytes.ofAscii "text/html; ", isQuote b = false) ∧
      IsTagged
        (Bytes.ofAscii
          "<meta content=\"text/html; charset=utf-8\" http-equiv=\"Content-Type\">") []
        (contentAttributes [] (Bytes.ofAscii "text/html; ") "utf-8".toList
          (Bytes.ofAscii " http-equiv=\"Content-Type\"")) [] ∧
      detect? (Bytes.ofAscii
        "<meta content=\"text/html; charset=utf-8\" http-equiv=\"Content-Type\">") ≠
          some ⟨.utf8, 0⟩ := by
  have hlabel : Encoding.ofLabel? "utf-8".toList = some .utf8 := by decide +kernel
  have hbefore : ¬ charsetKey <:+: [] := by decide
  have hcontent : ¬ charsetKey <:+: Bytes.ofAscii "text/html; " := by decide +kernel
  have htagged : IsTagged
      (Bytes.ofAscii "<meta content=\"text/html; charset=utf-8\" http-equiv=\"Content-Type\">") []
      (contentAttributes [] (Bytes.ofAscii "text/html; ") "utf-8".toList
        (Bytes.ofAscii " http-equiv=\"Content-Type\"")) [] := by
    decide +kernel
  have hafter : Bytes.ofAscii " http-equiv=\"Content-Type\"" =
      Bytes.ofAscii " http-equiv=" ++ 0x22 :: Bytes.ofAscii "Content-Type\"" := by decide +kernel
  have hvalue : (Utf8.decode? (Bytes.ofAscii " http-equiv=")).bind Encoding.ofLabel? = none := by
    decide +kernel
  have hbehind : inMeta? metaClose = none :=
    inMeta?_of_absent (Bytes.breakOn?_eq_none_iff.2 (by decide +kernel))
  refine ⟨hlabel, hbefore, hcontent, by decide +kernel, htagged, ?_⟩
  rw [hafter] at htagged
  rw [detect?_of_closed_content hlabel hbefore hcontent (by decide +kernel) htagged,
    hvalue, behindTag, List.take_nil, List.append_nil, hbehind]
  nofun

end TextIntake

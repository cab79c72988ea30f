import TextIntake.Proofs.Encoding.Repertoire

set_option autoImplicit false

/-!
# Decoding and encoding undo each other

A text is read back from its written form, and a byte string that decodes without a
malformed sequence is the written form of the text that it decodes to.  So nothing but
written forms decodes without errors: forms that are longer than needed, surrogates on
their own, odd bytes and bytes without a character are all told apart.

One step of a decoder that yields a character has read the form of that character.  The
rest is an induction on the text.

Main statement: `decode_encode_inverse`.
-/

namespace TextIntake

/-- Where nothing was replaced, the pieces are the characters of the text. -/
theorem Decoded.eq_map_some_of_hasErrors {d : Decoded} (h : d.hasErrors = false) :
    d = d.text.map some := by
  induction d with
  | nil => rfl
  | cons piece d ih =>
    cases piece with
    | none => cases h
    | some c => exact congrArg (some c :: ·) (ih h)

/-! ## UTF-8 -/

namespace Utf8

variable {a b c d : UInt8} {n : Nat}

theorem ofNat_of_toNat_eq (h : b.toNat = n) : UInt8.ofNat n = b := by
  rw [← h, UInt8.ofNat_toNat]

/-- The number of a code point that is no surrogate. -/
theorem toNat_ofNat_of_valid (h : n < 0xD800 ∨ (0xDFFF < n ∧ n < 0x110000)) :
    (Char.ofNat n).toNat = n := by
  rw [Char.ofNat, dif_pos h]
  rfl

/-- The bytes that start a character, by its width. -/
theorem bounds_of_width (b : UInt8) :
    (width b = 1 → b.toNat < 0x80) ∧ (width b = 2 → 0xC2 ≤ b.toNat ∧ b.toNat < 0xE0) ∧
      (width b = 3 → 0xE0 ≤ b.toNat ∧ b.toNat < 0xF0) ∧
      (width b = 4 → 0xF0 ≤ b.toNat ∧ b.toNat < 0xF5) := by
  rw [width_eq]
  split
  · omega
  split
  · omega
  split
  · omega
  split
  · omega
  split
  · omega
  · omega

theorem encodeChar_one (ha : a.toNat < 0x80) : encodeChar (Char.ofNat a.toNat) = [a] := by
  have hnumber := toNat_ofNat_of_valid (n := a.toNat) (by omega)
  simp only [encodeChar, hnumber, if_pos ha, UInt8.ofNat_toNat]

theorem encodeChar_two (ha : 0xC2 ≤ a.toNat ∧ a.toNat < 0xE0) (hb : follows a b = true)
    (hn : (a.toNat - 0xC0) * 0x40 + payload b = n) : encodeChar (Char.ofNat n) = [a, b] := by
  unfold payload at hn
  have hb' := (follows_iff a b).1 hb
  have hnumber := toNat_ofNat_of_valid (n := n) (by omega)
  have h₁ : ¬ n < 0x80 := by omega
  have h₂ : n < 0x800 := by omega
  have hfirst : UInt8.ofNat (0xC0 + n / 0x40) = a := ofNat_of_toNat_eq (by omega)
  have hlast : UInt8.ofNat (0x80 + n % 0x40) = b := ofNat_of_toNat_eq (by omega)
  simp only [encodeChar, hnumber, if_neg h₁, if_pos h₂, hfirst, hlast]

/-- What may follow E0 and ED keeps the code point beyond U+07FF and off the surrogates. -/
theorem encodeChar_three (ha : 0xE0 ≤ a.toNat ∧ a.toNat < 0xF0) (hb : follows a b = true)
    (hc : isContinuation c = true)
    (hn : (a.toNat - 0xE0) * 0x1000 + payload b * 0x40 + payload c = n) :
    encodeChar (Char.ofNat n) = [a, b, c] := by
  unfold payload at hn
  have hb' := (follows_iff a b).1 hb
  have hc' := (isContinuation_iff c).1 hc
  have hnumber := toNat_ofNat_of_valid (n := n) (by omega)
  have h₁ : ¬ n < 0x80 := by omega
  have h₂ : ¬ n < 0x800 := by omega
  have h₃ : n < 0x10000 := by omega
  have hfirst : UInt8.ofNat (0xE0 + n / 0x1000) = a := ofNat_of_toNat_eq (by omega)
  have hsecond : UInt8.ofNat (0x80 + n / 0x40 % 0x40) = b := ofNat_of_toNat_eq (by omega)
  have hlast : UInt8.ofNat (0x80 + n % 0x40) = c := ofNat_of_toNat_eq (by omega)
  simp only [encodeChar, hnumber, if_neg h₁, if_neg h₂, if_pos h₃, hfirst, hsecond, hlast]

/-- What may follow F0 and F4 keeps the code point beyond U+FFFF and up to U+10FFFF. -/
theorem encodeChar_four (ha : 0xF0 ≤ a.toNat ∧ a.toNat < 0xF5) (hb : follows a b = true)
    (hc : isContinuation c = true) (hd : isContinuation d = true)
    (hn : (a.toNat - 0xF0) * 0x40000 + payload b * 0x1000 + payload c * 0x40 + payload d = n) :
    encodeChar (Char.ofNat n) = [a, b, c, d] := by
  unfold payload at hn
  have hb' := (follows_iff a b).1 hb
  have hc' := (isContinuation_iff c).1 hc
  have hd' := (isContinuation_iff d).1 hd
  have hnumber := toNat_ofNat_of_valid (n := n) (by omega)
  have h₁ : ¬ n < 0x80 := by omega
  have h₂ : ¬ n < 0x800 := by omega
  have h₃ : ¬ n < 0x10000 := by omega
  have hfirst : UInt8.ofNat (0xF0 + n / 0x40000) = a := ofNat_of_toNat_eq (by omega)
  have hsecond : UInt8.ofNat (0x80 + n / 0x1000 % 0x40) = b := ofNat_of_toNat_eq (by omega)
  have hthird : UInt8.ofNat (0x80 + n / 0x40 % 0x40) = c := ofNat_of_toNat_eq (by omega)
  have hlast : UInt8.ofNat (0x80 + n % 0x40) = d := ofNat_of_toNat_eq (by omega)
  simp only [encodeChar, hnumber, if_neg h₁, if_neg h₂, if_neg h₃, hfirst, hsecond, hthird,
    hlast]

/-- A character that is read stands in front, in its one form. -/
theorem exists_rest_of_decode {bs : Bytes} {x : Char} {pieces : Decoded}
    (h : decode bs = some x :: pieces) :
    ∃ rest, bs = encodeChar x ++ rest ∧ decode rest = pieces := by
  revert h
  fun_cases decode bs with
  | case2 a rest hwidth =>
    intro h
    obtain ⟨hx, rfl⟩ := List.cons.inj h
    rw [← Option.some.inj hx, encodeChar_one ((bounds_of_width a).1 hwidth)]
    exact ⟨rest, rfl, rfl⟩
  | case4 a hwidth b rest hb =>
    intro h
    obtain ⟨hx, rfl⟩ := List.cons.inj h
    rw [← Option.some.inj hx, encodeChar_two ((bounds_of_width a).2.1 hwidth) hb rfl]
    exact ⟨rest, rfl, rfl⟩
  | case8 a hwidth b hb c rest hc =>
    intro h
    obtain ⟨hx, rfl⟩ := List.cons.inj h
    rw [← Option.some.inj hx, encodeChar_three ((bounds_of_width a).2.2.1 hwidth) hb hc rfl]
    exact ⟨rest, rfl, rfl⟩
  | case14 a hwidth b hb c hc d rest hd =>
    intro h
    obtain ⟨hx, rfl⟩ := List.cons.inj h
    rw [← Option.some.inj hx, encodeChar_four ((bounds_of_width a).2.2.2 hwidth) hb hc hd rfl]
    exact ⟨rest, rfl, rfl⟩
  | _ =>
    intro h
    cases h

theorem eq_nil_of_decode {bs : Bytes} (h : decode bs = []) : bs = [] := by
  revert h
  fun_cases decode bs with
  | case1 => exact fun _ => rfl
  | _ =>
    intro h
    cases h

/-- Only the form of a text decodes to its characters. -/
theorem encode_of_decode {bs : Bytes} {t : Text} (h : decode bs = t.map some) :
    encode t = bs := by
  induction t generalizing bs with
  | nil => exact (eq_nil_of_decode h).symm
  | cons x t ih =>
    obtain ⟨rest, rfl, hrest⟩ := exists_rest_of_decode h
    rw [encode_cons, ih hrest]

end Utf8

/-! ## UTF-16 -/

namespace Utf16

variable {order : ByteOrder}

/-- Two bytes are the form of the unit that they make up. -/
theorem ByteOrder.bytes_unit (order : ByteOrder) (a b : UInt8) :
    order.bytes (order.unit a b) = [a, b] ∧ order.unit a b < 0x10000 := by
  have ha := a.toNat_lt
  have hb := b.toNat_lt
  cases order with
  | little =>
    have hlow : UInt8.ofNat ((a.toNat + b.toNat * 0x100) % 0x100) = a :=
      Utf8.ofNat_of_toNat_eq (by omega)
    have hhigh : UInt8.ofNat ((a.toNat + b.toNat * 0x100) / 0x100) = b :=
      Utf8.ofNat_of_toNat_eq (by omega)
    rw [unit, bytes, hlow, hhigh]
    exact ⟨rfl, by omega⟩
  | big =>
    have hlow : UInt8.ofNat ((a.toNat * 0x100 + b.toNat) % 0x100) = b :=
      Utf8.ofNat_of_toNat_eq (by omega)
    have hhigh : UInt8.ofNat ((a.toNat * 0x100 + b.toNat) / 0x100) = a :=
      Utf8.ofNat_of_toNat_eq (by omega)
    rw [unit, bytes, hlow, hhigh]
    exact ⟨rfl, by omega⟩

theorem units_single {u : Nat} (hu : u < 0xD800 ∨ (0xDFFF < u ∧ u < 0x10000)) :
    units (Char.ofNat u) = [u] := by
  have hnumber := Utf8.toNat_ofNat_of_valid (n := u) (by omega)
  have hsmall : u < 0x10000 := by omega
  simp only [units, hnumber, if_pos hsmall]

theorem units_pair {u v n : Nat} (hu : 0xD800 ≤ u ∧ u < 0xDC00) (hv : 0xDC00 ≤ v ∧ v < 0xE000)
    (hn : 0x10000 + (u - 0xD800) * 0x400 + (v - 0xDC00) = n) :
    units (Char.ofNat n) = [u, v] := by
  have hnumber := Utf8.toNat_ofNat_of_valid (n := n) (by omega)
  have hlarge : ¬ n < 0x10000 := by omega
  have hfirst : 0xD800 + (n - 0x10000) / 0x400 = u := by omega
  have hlast : 0xDC00 + (n - 0x10000) % 0x400 = v := by omega
  simp only [units, hnumber, if_neg hlarge, hfirst, hlast]

/-- A character that is read stands in front, in its one form. -/
theorem exists_rest_of_decode {bs : Bytes} {x : Char} {pieces : Decoded}
    (h : decode order bs = some x :: pieces) :
    ∃ rest, bs = (units x).flatMap order.bytes ++ rest ∧ decode order rest = pieces := by
  revert h
  fun_cases decode order bs with
  | case3 a b u hu c d rest v hv =>
    intro h
    obtain ⟨hx, rfl⟩ := List.cons.inj h
    have hunits := units_pair ((isHigh_iff u).1 hu) ((isLow_iff v).1 hv) rfl
    rw [← Option.some.inj hx, hunits, List.flatMap_cons, List.flatMap_singleton,
      (order.bytes_unit a b).1, (order.bytes_unit c d).1]
    exact ⟨rest, rfl, rfl⟩
  | case7 a b rest u hhigh hlow =>
    intro h
    obtain ⟨hx, rfl⟩ := List.cons.inj h
    have hbound : u < 0x10000 := (order.bytes_unit a b).2
    rw [isHigh_iff] at hhigh
    rw [isLow_iff] at hlow
    rw [← Option.some.inj hx, units_single (by omega), List.flatMap_singleton,
      (order.bytes_unit a b).1]
    exact ⟨rest, rfl, rfl⟩
  | _ =>
    intro h
    cases h

theorem eq_nil_of_decode {bs : Bytes} (h : decode order bs = []) : bs = [] := by
  revert h
  fun_cases decode order bs with
  | case1 => exact fun _ => rfl
  | _ =>
    intro h
    cases h

/-- Only the form of a text decodes to its characters. -/
theorem encode_of_decode {bs : Bytes} {t : Text} (h : decode order bs = t.map some) :
    encode order t = bs := by
  induction t generalizing bs with
  | nil => exact (eq_nil_of_decode h).symm
  | cons x t ih =>
    obtain ⟨rest, rfl, hrest⟩ := exists_rest_of_decode h
    rw [← ih hrest, encode, encode, List.flatMap_cons, List.flatMap_append]

end Utf16

/-! ## Single bytes -/

namespace SingleByte

variable {table : Table} {b : UInt8} {c : Char} {n : Nat}

/-- What makes a table one to one where it is defined. -/
structure Faithful (table : Table) : Prop where
  /-- Only the mark of a byte without a character stands at two places. -/
  distinct : table.Pairwise fun m n => m = n → m = 0xFFFD
  /-- No place holds an ASCII character or a surrogate. -/
  valid : ∀ n ∈ table, 0x80 ≤ n ∧ (n < 0xD800 ∨ (0xDFFF < n ∧ n < 0x110000))

/-- Whether no code point of a table is among those seen before it, the bits of a number. -/
def isFresh : Nat → Table → Bool
  | _, [] => true
  | seen, n :: table => (n == 0xFFFD || !seen.testBit n) && isFresh (seen ||| 1 <<< n) table

/-- What has been seen does not come again. -/
theorem distinct_of_isFresh {seen : Nat} (h : isFresh seen table = true) :
    (∀ n ∈ table, seen.testBit n = true → n = 0xFFFD) ∧
      table.Pairwise fun m n => m = n → m = 0xFFFD := by
  induction table generalizing seen with
  | nil => exact ⟨fun _ hn => absurd hn List.not_mem_nil, .nil⟩
  | cons m table ih =>
    rw [isFresh, Bool.and_eq_true] at h
    obtain ⟨hm, hrest⟩ := h
    obtain ⟨hseen, hdistinct⟩ := ih hrest
    refine ⟨?_, .cons ?_ hdistinct⟩
    · intro n hn hbit
      rcases List.mem_cons.1 hn with rfl | hn
      · simpa [hbit] using hm
      · exact hseen n hn (by rw [Nat.testBit_or, hbit, Bool.true_or])
    · rintro n hn rfl
      exact hseen m hn (by rw [Nat.testBit_or, Nat.one_shiftLeft, Nat.testBit_two_pow_self,
        Bool.or_true])

/-- A code point of a faithful table is found where it stands. -/
theorem idxOf?_of_getElem? (hfaithful : Faithful table) {i : Nat} (hat : table[i]? = some n)
    (hn : n ≠ 0xFFFD) : table.idxOf? n = some i := by
  obtain ⟨hi, hat⟩ := List.getElem?_eq_some_iff.1 hat
  refine List.idxOf?_eq_some_iff.2 ⟨hi, hat, ?_⟩
  intro j hj hsame
  have hmark := List.pairwise_iff_getElem.1 hfaithful.distinct j i (Nat.lt_trans hj hi) hi hj
  exact hn (hsame ▸ hmark (hsame.trans hat.symm))

/-- A byte that is read as a character is the form of that character. -/
theorem encodeChar?_of_decodeByte (hfaithful : Faithful table)
    (h : decodeByte table b = some c) : encodeChar? table c = some b := by
  rw [decodeByte] at h
  split at h
  · rename_i hlow
    have hascii : b.toNat < 0x80 := UInt8.lt_iff_toNat_lt.1 hlow
    have hnumber := Utf8.toNat_ofNat_of_valid (n := b.toNat) (by omega)
    rw [← Option.some.inj h, encodeChar?, hnumber, if_pos hascii, UInt8.ofNat_toNat]
  · rename_i hhigh
    rw [UInt8.lt_iff_toNat_lt] at hhigh
    have hbyte : 0x80 ≤ b.toNat := Nat.not_lt.1 hhigh
    split at h
    · rename_i n hat
      split at h
      · cases h
      · rename_i hmark
        obtain ⟨hn, hvalid⟩ := hfaithful.valid n (List.mem_of_getElem? hat)
        have hnumber := Utf8.toNat_ofNat_of_valid hvalid
        have hreplacement : Char.ofNat n ≠ Character.replacement := by
          intro hsame
          exact hmark (hnumber.symm.trans (congrArg Char.toNat hsame))
        have hback : UInt8.ofNat (0x80 + (b.toNat - 0x80)) = b :=
          Utf8.ofNat_of_toNat_eq (by omega)
        rw [← Option.some.inj h, encodeChar?, hnumber, if_neg (Nat.not_lt.2 hn),
          if_neg hreplacement, idxOf?_of_getElem? hfaithful hat hmark, Option.map_some, hback]
    · cases h

/-- Only the form of a text decodes to its characters. -/
theorem encode_of_decode (hfaithful : Faithful table) {bs : Bytes} {t : Text}
    (h : decode table bs = t.map some) : encode table t = bs := by
  induction t generalizing bs with
  | nil =>
    rw [decode, List.map_nil, List.map_eq_nil_iff] at h
    rw [h]
    rfl
  | cons c t ih =>
    rw [decode, List.map_cons, List.map_eq_cons_iff] at h
    obtain ⟨b, rest, rfl, hbyte, hrest⟩ := h
    rw [encode, List.flatMap_cons, encodeChar?_of_decodeByte hfaithful hbyte]
    exact congrArg (b :: ·) (ih hrest)

end SingleByte

/-- The tables are one to one where they are defined. -/
theorem Legacy.faithful_table (codec : Legacy) : SingleByte.Faithful codec.table := by
  have hfresh : SingleByte.isFresh 0 codec.table = true := by
    cases codec <;> decide +kernel
  refine ⟨(SingleByte.distinct_of_isFresh hfresh).2, ?_⟩
  cases codec <;> decide +kernel

namespace Latin1

/-- No byte is without a character. -/
theorem hasErrors_decode (bs : Bytes) : (decode bs).hasErrors = false := by
  induction bs with
  | nil => rfl
  | cons b bs ih => exact ih

/-- Only the form of a text decodes to its characters. -/
theorem encode_of_decode {bs : Bytes} {t : Text} (h : decode bs = t.map some) :
    encode t = bs := by
  induction t generalizing bs with
  | nil =>
    rw [decode, List.map_nil, List.map_eq_nil_iff] at h
    rw [h]
    rfl
  | cons c t ih =>
    rw [decode, List.map_cons, List.map_eq_cons_iff] at h
    obtain ⟨b, rest, rfl, hbyte, hrest⟩ := h
    have hb : b.toNat < 0x100 := b.toNat_lt
    have hnumber : c.toNat = b.toNat := by
      rw [← Option.some.inj hbyte]
      exact Utf8.toNat_ofNat_of_valid (by omega)
    rw [encode, List.map_cons, hnumber, if_pos hb, UInt8.ofNat_toNat]
    exact congrArg (b :: ·) (ih hrest)

end Latin1

/-! ## All encodings -/

namespace Encoding

/-- Whether an encoding is here with all its characters.  Of the legacy encodings those are
meant that have a table. -/
def isWhole : Encoding → Bool
  | legacy codec => codec.isSingleByte
  | _ => true

/-- What decodes without errors is the body of the text that it decodes to. -/
theorem body_of_decode {e : Encoding} {bs : Bytes} {t : Text} (hwhole : e.isWhole = true)
    (h : e.decode bs = t.map some) : e.body t = bs := by
  cases e with
  | utf8 => exact Utf8.encode_of_decode h
  | utf8Marked => exact Utf8.encode_of_decode h
  | utf16le => exact Utf16.encode_of_decode h
  | utf16be => exact Utf16.encode_of_decode h
  | latin1 => exact Latin1.encode_of_decode h
  | legacy codec =>
    obtain ⟨hdecode, hencode⟩ := codec_of_isSingleByte hwhole
    rw [hdecode] at h
    show (legacy codec).encode t = bs
    rw [hencode]
    exact SingleByte.encode_of_decode codec.faithful_table h

theorem encode_eq_body {e : Encoding} (h : e ≠ utf8Marked) (t : Text) : e.encode t = e.body t := by
  cases e with
  | utf8Marked => exact absurd rfl h
  | _ => rfl

/-- Whether a text is read back from what is written for it, with nothing replaced. -/
def ReadsBack (e : Encoding) (t : Text) : Prop :=
  (e.decode (e.encode t)).hasErrors = false ∧ e.decodeText (e.encode t) = t

theorem readsBack_of_represents {e : Encoding} {t : Text} (h : e ≠ utf8Marked)
    (ht : ∀ c ∈ t, e.represents c = true) : e.ReadsBack t := by
  rw [ReadsBack, encode_eq_body h]
  refine ⟨?_, decodeText_body ht⟩
  rw [decode_body ht, Decoded.hasErrors_map_some]

/-- **Decoding and encoding undo each other.**  The Unicode forms without a marker read every
text back from what they write for it, and UTF-8 with a marker reads it back behind the
marker.  Latin-1 and the legacy encodings with a table read back the texts of their
characters.  Conversely, bytes that decode without errors, in an encoding that is here as a
whole and writes no marker, are what is written for the text that they decode to.  In Latin-1
there are no errors. -/
theorem decode_encode_inverse :
    (∀ t, utf8.ReadsBack t ∧ utf16le.ReadsBack t ∧ utf16be.ReadsBack t) ∧
      (∀ t, (utf8Marked.decode (utf8Marked.encode t)).hasErrors = false ∧
        utf8Marked.decodeText (utf8Marked.encode t) = '\uFEFF' :: t) ∧
      (∀ e t, e ≠ utf8Marked → (∀ c ∈ t, e.represents c = true) → e.ReadsBack t) ∧
      (∀ e bs, e ≠ utf8Marked → e.isWhole = true → (e.decode bs).hasErrors = false →
        e.encode (e.decodeText bs) = bs) ∧
      ∀ bs, (latin1.decode bs).hasErrors = false := by
  refine ⟨?unicode, ?marked, ?represented, ?written, ?latin1⟩
  case unicode =>
    intro t
    refine ⟨?_, ?_, ?_⟩
    · exact readsBack_of_represents (by decide) fun _ _ => rfl
    · exact readsBack_of_represents (by decide) fun _ _ => rfl
    · exact readsBack_of_represents (by decide) fun _ _ => rfl
  case marked =>
    intro t
    have hdecode : utf8Marked.decode (utf8Marked.encode t) = ('\uFEFF' :: t).map some := by
      show utf8Marked.decode (Utf8.marker ++ Utf8.encode t) = _
      rw [decode_marker_append rfl, List.map_cons]
      exact congrArg (some '\uFEFF' :: ·) (Utf8.decode_encode t)
    rw [decodeText, hdecode]
    exact ⟨Decoded.hasErrors_map_some _, Decoded.text_map_some _⟩
  case represented => exact fun e t h ht => readsBack_of_represents h ht
  case written =>
    intro e bs h hwhole herrors
    rw [encode_eq_body h]
    exact body_of_decode hwhole (Decoded.eq_map_some_of_hasErrors herrors)
  case latin1 => exact Latin1.hasErrors_decode

/-- A pair of surrogates in UTF-16, and a euro sign in windows-1252, both ways. -/
theorem decode_encode_inverse_of_clef_and_euro :
    let pair : Bytes := [0xD8, 0x34, 0xDD, 0x1E]
    let euro : Bytes := [0x80, 0xE9]
    utf16be.encode ['𝄞'] = pair ∧ utf16be.encode (utf16be.decodeText pair) = pair ∧
      (legacy .windows1252).ReadsBack ['€', 'é'] ∧
      (legacy .windows1252).encode ((legacy .windows1252).decodeText euro) = euro := by
  intro pair euro
  obtain ⟨-, -, hrepresented, hwritten, -⟩ := decode_encode_inverse
  refine ⟨rfl, ?_, ?_, ?_⟩
  · exact hwritten utf16be pair (by decide) rfl rfl
  · exact hrepresented (.legacy .windows1252) ['€', 'é'] (by decide) (List.all_eq_true.1 rfl)
  · exact hwritten (.legacy .windows1252) euro (by decide) (by decide) (by decide)

end Encoding

end TextIntake

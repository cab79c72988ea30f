import TextIntake.Proofs.View.History

set_option autoImplicit false

/-!
# Decoding forgets earlier decoding

The bytes of a view may be decoded again, in another encoding or with other limits.  Either they
are too large, and the view stays as it is, or all that was decoded before is replaced: nothing
of an earlier page, its padding or its flags is left, whatever was done to the view.

Main statement: `decoding_after`.
-/

namespace TextIntake.View

section

variable {e : Encoding} {limits : Limits} {r : LineFilter} {scanner : Comment.Scanner}

/-! ## What bytes are decoded to -/

/-- What the given bytes are decoded to: the view of the page that they split into, a view that
is not text, or nothing when they are too large. -/
inductive Decoding (e : Encoding) (limits : Limits) (r : LineFilter) (scanner : Comment.Scanner)
    (bs : Bytes) : Option View → Prop where
  | text {page : Page} {scanner' : Comment.Scanner}
      (split : Page.ofBytes e limits r scanner bs = .ok (page, scanner')) :
      Decoding e limits r scanner bs (some (ofPage bs page))
  | binary (split : Page.ofBytes e limits r scanner bs = .error .binary) :
      Decoding e limits r scanner bs (some (ofBytes bs))
  | tooLarge (split : Page.ofBytes e limits r scanner bs = .error .tooLarge) :
      Decoding e limits r scanner bs none

namespace Decoding

variable {bs : Bytes} {decoded : Option View}

/-- The bytes settle what they are decoded to: what a view is that holds nothing else. -/
theorem eq_decode? (h : Decoding e limits r scanner bs decoded) :
    decoded = (ofBytes bs).decode? e limits r scanner := by
  cases h with
  | text split => exact (decode?_of_ofBytes split).symm
  | binary split => exact (decode?_of_binary split).symm
  | tooLarge split => exact (decode?_of_tooLarge split).symm

/-- Decoding keeps the bytes. -/
theorem raw {v : View} (h : Decoding e limits r scanner bs (some v)) : v.raw = some bs := by
  cases h <;> rfl

theorem eq_none_iff (h : Decoding e limits r scanner bs decoded) :
    decoded = none ↔ Page.ofBytes e limits r scanner bs = .error .tooLarge := by
  cases h with
  | text split | binary split =>
    rw [split]
    constructor <;> exact fun habsurd => by cases habsurd
  | tooLarge split => exact ⟨fun _ => split, fun _ => rfl⟩

end Decoding

/-! ## Views in any state -/

variable {v : View}

/-- Whatever else a view holds, it is decoded as its bytes are. -/
theorem decoding_decode? {bs : Bytes} (h : v.raw = some bs) :
    Decoding e limits r scanner bs (v.decode? e limits r scanner) := by
  obtain ⟨raw, page, isDecoded⟩ := v
  obtain rfl : raw = some bs := h
  rw [decode?]
  dsimp only
  split
  · rename_i hpage
    exact .text hpage
  · rename_i hbinary
    exact .binary hbinary
  · rename_i hlarge
    exact .tooLarge hlarge

theorem decode?_of_unread (h : v.raw = none) : v.decode? e limits r scanner = some v := by
  rw [decode?, h]

theorem raw_decode? {decoded : View} (h : v.decode? e limits r scanner = some decoded) :
    decoded.raw = v.raw := by
  cases hraw : v.raw with
  | none =>
    rw [decode?_of_unread hraw] at h
    rw [← Option.some.inj h, hraw]
  | some bs =>
    have hdecoding : Decoding e limits r scanner bs (v.decode? e limits r scanner) :=
      decoding_decode? hraw
    rw [h] at hdecoding
    exact hdecoding.raw

/-- Only a view that was read can be too large. -/
theorem decode?_eq_none_iff :
    v.decode? e limits r scanner = none ↔
      ∃ bs, v.raw = some bs ∧ Page.ofBytes e limits r scanner bs = .error .tooLarge := by
  cases hraw : v.raw with
  | none =>
    rw [decode?_of_unread hraw]
    constructor
    · intro h
      cases h
    · rintro ⟨bs, hbs, -⟩
      cases hbs
  | some bs =>
    rw [(decoding_decode? hraw).eq_none_iff]
    constructor
    · exact fun hlarge => ⟨bs, rfl, hlarge⟩
    · rintro ⟨bs', hbs', hlarge⟩
      cases hbs'
      exact hlarge

end

/-! ## Main statement -/

/-- **Decoding is atomic and forgets earlier decoding.**  Decode a view behind any history of
several views.  The bytes stay, and so do the other views.  If the bytes are too large, nothing
has changed at all.  A view that was never read stays as it is.  A view that was read is decoded
as one that holds the same bytes and nothing else: to the page that the bytes split into, or to
no page if they are not text.  So two views with the same bytes are decoded to the same view,
whatever was done to each of them. -/
theorem decoding_after (history : List Step) (i : Nat) (e : Encoding) (limits : Limits)
    (r : LineFilter) (scanner : Comment.Scanner) :
    let views := after history
    let decoded := after (history ++ [⟨i, .decode e limits r scanner⟩])
    let outcome := (views i).decode? e limits r scanner
    (∀ j, (decoded j).raw = (views j).raw) ∧
    (∀ j, j ≠ i → decoded j = views j) ∧
    (outcome = none ↔
      ∃ bs, (views i).raw = some bs ∧ Page.ofBytes e limits r scanner bs = .error .tooLarge) ∧
    (outcome = none → decoded = views) ∧
    (∀ v, outcome = some v → decoded i = v) ∧
    ((views i).raw = none → outcome = some (views i)) ∧
    ∀ bs, (views i).raw = some bs →
      Decoding e limits r scanner bs outcome ∧
      outcome = (ofBytes bs).decode? e limits r scanner ∧
      ∀ history' j, (after history' j).raw = some bs →
        (after history' j).decode? e limits r scanner = outcome := by
  intro views decoded outcome
  have htarget : decoded i = outcome.getD (views i) :=
    after_append_target history i (.decode e limits r scanner)
  have hother : ∀ j, j ≠ i → decoded j = views j := fun j =>
    after_append_of_ne history (.decode e limits r scanner)
  have hrefused : outcome = none → decoded i = views i := fun hnone => by
    rw [htarget, hnone, Option.getD_none]
  have hdecoded : ∀ v, outcome = some v → decoded i = v := fun v hv => by
    rw [htarget, hv, Option.getD_some]
  refine ⟨fun j => ?_, hother, decode?_eq_none_iff, fun hnone => funext fun j => ?_, hdecoded,
    decode?_of_unread, fun bs hraw => ?_⟩
  · by_cases hj : j = i
    · subst hj
      cases houtcome : outcome with
      | none => rw [hrefused houtcome]
      | some v =>
        rw [hdecoded v houtcome]
        exact raw_decode? houtcome
    · rw [hother j hj]
  · by_cases hj : j = i
    · subst hj
      exact hrefused hnone
    · exact hother j hj
  · have hdecoding : Decoding e limits r scanner bs outcome := decoding_decode? hraw
    exact ⟨hdecoding, hdecoding.eq_decode?,
      fun history' j hraw' => (decoding_decode? hraw').eq_decode?.trans hdecoding.eq_decode?.symm⟩

/-- A view of two lines, behind a marker, is padded to three and takes over a flag.  Decoded with
room for one line it stays as it is, and with room for two it is as decoded for the first time. -/
theorem decoding_after_of_padded :
    let content : Bytes := [0xEF, 0xBB, 0xBF, 0x61, 0x0A, 0x62, 0x0A]
    let comment : Bytes := [0xEF, 0xBB, 0xBF, 0x2F, 0x2F, 0x0A]
    let tree : FileTree := { nodes := [([['f']], .file content), ([['g']], .file comment)] }
    let history : List Step :=
      [⟨0, .read tree ['/', 'f']⟩, ⟨0, .decode .utf8 ⟨9, 99⟩ {} .absent⟩, ⟨0, .padTo 3⟩,
        ⟨1, .read tree ['/', 'g']⟩, ⟨1, .decode .utf8 ⟨9, 99⟩ {} (.cStyle false)⟩,
        ⟨0, .adoptCommentFlags 1⟩]
    (after history 0).page.records.map LineRecord.pureComment = [true, false, false, false] ∧
      after (history ++ [⟨0, .decode .utf8 ⟨1, 99⟩ {} .absent⟩]) = after history ∧
      some (after (history ++ [⟨0, .decode .utf8 ⟨2, 99⟩ {} .absent⟩]) 0) =
        (ofBytes content).decode? .utf8 ⟨2, 99⟩ {} .absent := by
  intro content comment tree history
  obtain ⟨-, -, -, hrefused, -⟩ := decoding_after history 0 .utf8 ⟨1, 99⟩ {} .absent
  obtain ⟨-, -, -, -, hdecoded, -, hforgets⟩ :=
    decoding_after history 0 .utf8 ⟨2, 99⟩ {} .absent
  obtain ⟨-, hfresh, -⟩ := hforgets content rfl
  refine ⟨rfl, hrefused rfl, ?_⟩
  rw [hdecoded _ rfl]
  exact hfresh

end TextIntake.View

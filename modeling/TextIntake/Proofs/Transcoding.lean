import TextIntake.Line.Splitting
import TextIntake.Proofs.Encoding.Repertoire

set_option autoImplicit false

/-!
# Transcoding keeps the lines

A document that is handed to a command in another encoding has the same text there,
provided that the other encoding represents its characters.  The marker is looked for
twice, in the document and in what is written for it, and each time only the marker of
the encoding itself counts.

Main statement: `Page.ofBytes_transcode`.
-/

namespace TextIntake

variable {source target : Encoding} {bs : Bytes}

/-- The text of a document in another encoding is its text. -/
theorem documentText_transcode
    (hchars : ∀ c ∈ documentText source bs, target.represents c = true)
    (hhead : target = .utf8Marked ∨ (documentText source bs).head? ≠ some '\uFEFF') :
    documentText target (transcode source target bs) = documentText source bs := by
  generalize htext : documentText source bs = t at hchars hhead
  rw [transcode, htext, documentText, payload_eq_unmarked,
    Encoding.unmarked_encode hchars hhead, Encoding.decodeText_body hchars]

namespace Page

variable {limits : Limits}

/-- A document that is not too long splits as its text does. -/
theorem ofBytes_eq_ofText {e : Encoding} (h : (payload e bs).length ≤ limits.maxBytes)
    (r : LineFilter) (scanner : Comment.Scanner) :
    ofBytes e limits r scanner bs = ofText limits r scanner (documentText e bs) :=
  if_neg (Nat.not_lt.2 h)

/-- **Transcoding keeps the lines.**  Let the target represent every character of a
document, and let its text not begin with U+FEFF where the target writes no marker.  Then
what is written for the document splits as the document does, whether the document is
well formed or not: it is refused for the same reason, or has the same page and leaves the
scanner in the same state. -/
theorem ofBytes_transcode (hchars : ∀ c ∈ documentText source bs, target.represents c = true)
    (hhead : target = .utf8Marked ∨ (documentText source bs).head? ≠ some '\uFEFF')
    (hsource : (payload source bs).length ≤ limits.maxBytes)
    (htarget : (payload target (transcode source target bs)).length ≤ limits.maxBytes)
    (r : LineFilter) (scanner : Comment.Scanner) :
    ofBytes target limits r scanner (transcode source target bs) =
      ofBytes source limits r scanner bs := by
  rw [ofBytes_eq_ofText htarget, ofBytes_eq_ofText hsource,
    documentText_transcode hchars hhead]

/-- A UTF-16 document with two markers, half a pair and an odd byte is written in UTF-8 with
two markers, and a UTF-8 document of `ÿþ` is written in Latin-1 as what would be the marker
of UTF-16. -/
theorem ofBytes_transcode_of_lookalikes :
    let broken : Bytes := [0xFF, 0xFE, 0xFF, 0xFE, 0x00, 0xD8, 0x0D, 0x00, 0x0A, 0x00, 0x41]
    let lookalike : Bytes := [0xEF, 0xBB, 0xBF, 0xC3, 0xBF, 0xC3, 0xBE]
    documentText .utf16le broken = ['\uFEFF', '\uFFFD', '\r', '\n', '\uFFFD'] ∧
      ofBytes .utf8Marked {} {} .absent (transcode .utf16le .utf8Marked broken) =
        ofBytes .utf16le {} {} .absent broken ∧
      transcode .utf8 .latin1 lookalike = Utf16.ByteOrder.little.marker ∧
      ofBytes .latin1 {} {} .absent (transcode .utf8 .latin1 lookalike) =
        ofBytes .utf8 {} {} .absent lookalike := by
  intro broken lookalike
  have htext : documentText .utf8 lookalike = ['ÿ', 'þ'] := by decide
  have hchars : ∀ c ∈ documentText .utf8 lookalike, Encoding.latin1.represents c = true := by
    rw [htext, List.forall_mem_cons, List.forall_mem_singleton]
    exact ⟨rfl, rfl⟩
  refine ⟨by decide, ?_, by decide, ?_⟩
  · exact ofBytes_transcode (fun _ _ => rfl) (.inl rfl) (by decide) (by decide) {} .absent
  · exact ofBytes_transcode hchars (.inr (by decide)) (by decide) (by decide) {} .absent

end Page

end TextIntake

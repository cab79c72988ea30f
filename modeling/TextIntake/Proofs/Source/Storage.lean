import TextIntake.Proofs.Source.Copy
import TextIntake.Proofs.Transcoding

set_option autoImplicit false

/-!
# The views do not depend on how a text is stored

A text may be given directly, or stand in a file: in UTF-8 without a marker, or in a form
that its marker shows.  Without commands, and with a comment syntax that is not looked up by
name, all that is shown of a source is then a function of the text: the encoding that was
chosen, tags inside the text and the marker leave no trace.

Main statements: `appearance_run` and `appearance_of_stored`.
-/

namespace TextIntake

/-! ## Markers at the start of a file -/

/-- A marker at the start of a file shows its encoding, whatever follows. -/
theorem detectFromHead?_marker_append {e : Encoding} {marker : Bytes}
    (hmarker : e.marker? = some marker) (hform : e ≠ .utf8) (rest : Bytes) :
    (detectFromHead? (marker ++ rest)).map Detected.encoding = some e := by
  cases e with
  | utf8 => exact absurd rfl hform
  | utf8Marked =>
    obtain rfl := Option.some.inj hmarker
    rfl
  | utf16le =>
    obtain rfl := Option.some.inj hmarker
    rfl
  | utf16be =>
    obtain rfl := Option.some.inj hmarker
    rfl
  | latin1 => cases hmarker
  | legacy codec => cases hmarker

/-- An encoding with a marker represents every character. -/
theorem Encoding.represents_of_marker? {e : Encoding} {marker : Bytes}
    (hmarker : e.marker? = some marker) (c : Char) : e.represents c = true := by
  cases e with
  | latin1 => cases hmarker
  | legacy codec => cases hmarker
  | _ => rfl

/-! ## The text of a page -/

namespace Page

/-- Without a filter the text of a page is that of its lines, each ended by a line feed. -/
theorem text_ofRaws_plain (scanner : Comment.Scanner) (raws : List RawLine) :
    (ofRaws {} scanner raws).text = raws.flatMap fun raw => raw.content ++ ['\n'] := by
  have htexts := congrArg (List.flatMap (· ++ ['\n'])) (Line.map_text_ofRaws_plain scanner raws)
  rw [List.flatMap_map, List.flatMap_map] at htexts
  exact htexts

end Page

/-- Ending every line by a line feed puts no other character in front. -/
theorem RawLine.head?_normalised {raws : List RawLine} {c : Char} (hc : c ≠ '\n')
    (hhead : (written raws).head? ≠ some c) :
    (raws.flatMap fun raw => raw.content ++ ['\n']).head? ≠ some c := by
  cases raws with
  | nil =>
    intro h
    cases h
  | cons raw raws =>
    rw [List.flatMap_cons]
    rw [written_cons, chars] at hhead
    cases hcontent : raw.content with
    | nil =>
      intro h
      exact hc (Option.some.inj h).symm
    | cons d content =>
      rw [hcontent] at hhead
      exact hhead

namespace Source

/-! ## What is shown -/

/-- What is shown of a source, the bytes and the encoding apart: the pages of its views, with
their styles and flags, and the lines to show and to compare. -/
structure Appearance where
  isText : Bool
  display : Page
  comparison : Page
  shown : Option View.Lines
  compared : Option View.Lines
  deriving DecidableEq, Repr, Inhabited

/-- What is shown of a source. -/
def appearance (s : Source) : Appearance where
  isText := s.display.isText
  display := s.display.page
  comparison := s.comparison.page
  shown := s.display.lines?
  compared := s.comparisonLines?

/-- What is to be shown of a text, given how its lines are scanned. -/
def Appearance.ofText (o : Options) (scanner : Comment.Scanner) (t : Text) : Appearance :=
  match Page.ofText o.limits {} scanner t, Page.ofText o.limits o.lineFilter scanner t with
  | .ok (page, _), .ok (own, _) =>
    { isText := true
      display := page
      comparison := if o.wantsComparisonCopy then own else {}
      shown := some ⟨page.text, page.records, page.lineCount⟩
      compared := some ⟨own.text, own.records, own.lineCount⟩ }
  | _, _ =>
    { isText := false
      display := {}
      comparison := {}
      shown := none
      compared := none }

section

variable {o : Options} {scanner scanner' : Comment.Scanner} {m : Material}

/-- Content that is refused, for whatever reason, is kept and not decoded. -/
theorem buildViews_of_refused {refusal : Refusal} (w : Surroundings) (tree : FileTree)
    (hnone : o.preprocessor = [])
    (hrefused : Page.ofBytes m.encoding o.limits {} scanner m.content = .error refusal) :
    (buildViews w o scanner m tree).display = .ofBytes m.content ∧
      (buildViews w o scanner m tree).comparison = {} ∧ m.content ≠ [] := by
  have hnonempty : m.content ≠ [] := Page.ne_nil_of_refused hrefused
  have hmaterial : (tooling w o).stage o.preprocessor m tree = ⟨.ok m, none, tree⟩ :=
    if_pos hnone
  cases refusal with
  | tooLarge =>
    rw [buildViews, hmaterial]
    dsimp only
    rw [View.decode?_of_tooLarge hrefused]
    exact ⟨rfl, rfl, hnonempty⟩
  | binary =>
    rw [buildViews, hmaterial]
    dsimp only
    rw [View.decode?_of_binary hrefused]
    dsimp only
    rw [View.isText_ofBytes hnonempty, Bool.not_false, if_pos rfl]
    exact ⟨rfl, rfl, hnonempty⟩

/-- Content that is split is shown as its page, beside at most a copy. -/
theorem buildViews_of_split {page : Page} (w : Surroundings) (tree : FileTree)
    (hpreprocessor : o.preprocessor = []) (hlineMatcher : o.lineMatcher = [])
    (hpage : Page.ofBytes m.encoding o.limits {} scanner m.content = .ok (page, scanner')) :
    ∃ own, Page.ofBytes m.encoding o.limits o.lineFilter scanner m.content =
        .ok (own, scanner') ∧
      (buildViews w o scanner m tree).display = .ofPage m.content page ∧
      (buildViews w o scanner m tree).comparison = copied o m.content own := by
  have hstage : (tooling w o).stage o.preprocessor m tree = ⟨.ok m, none, tree⟩ :=
    if_pos hpreprocessor
  have hmaterial : ((tooling w o).stage o.preprocessor m tree).material = .ok m := by
    rw [hstage]
  have hcomparison := comparison_preprocessed o ((tooling w o).stage o.preprocessor m tree)
  obtain ⟨own, hown, -, hcopied⟩ := buildComparison_without_lineMatcher
    (d := { preprocessed o ((tooling w o).stage o.preprocessor m tree) with
      display := .ofPage m.content page }) w m.origin.name hlineMatcher hpage rfl hcomparison
  rw [buildViews_of_decoded hmaterial hpage, hcopied]
  exact ⟨own, hown, rfl, rfl⟩

end

section

variable {w : Surroundings} {choice : EncodingChoice} {o : Options} {s : Source}
  {tree : FileTree} {m : Material}

/-- Without commands a run shows what is to be shown of the text of the content that it
finds. -/
theorem appearance_run (hopened : opened? w choice s tree = some m)
    (hpreprocessor : o.preprocessor = []) (hlineMatcher : o.lineMatcher = [])
    (hbytes : (payload m.encoding m.content).length ≤ o.limits.maxBytes) :
    (run w choice o s tree).source.appearance =
      .ofText o (s.scanner o) (documentText m.encoding m.content) := by
  have hplain := Page.ofBytes_eq_ofText hbytes {} (s.scanner o)
  have hfiltered := Page.ofBytes_eq_ofText hbytes o.lineFilter (s.scanner o)
  rw [run_of_opened? hopened]
  dsimp only
  rw [Appearance.ofText, ← hplain, ← hfiltered]
  cases hpage : Page.ofBytes m.encoding o.limits {} (s.scanner o) m.content with
  | error refusal =>
    obtain ⟨hdisplay, hcomparison, hnonempty⟩ :=
      buildViews_of_refused w tree hpreprocessor hpage
    rw [appearance, comparisonLines?_of_unbuilt hcomparison]
    dsimp only
    rw [hdisplay, hcomparison, View.isText_ofBytes hnonempty]
    rfl
  | ok result =>
    obtain ⟨page, scanner'⟩ := result
    obtain ⟨own, hown, hdisplay, hcomparison⟩ :=
      buildViews_of_split w tree hpreprocessor hlineMatcher hpage
    rw [appearance, comparisonLines?_of_copied hpage hown hdisplay hcomparison]
    dsimp only
    rw [hdisplay, hcomparison, page_copied, View.isText_ofPage,
      View.lines?_of_wellFormed (Page.wellFormed_of_ofBytes hpage), hown]
    rfl

end

/-! ## Ways to store a text -/

/-- A way in which a source may be given a text: the input, the files around, the encoding
chosen, and the encoding that the text is read in. -/
inductive Stored (t : Text) : Input → FileTree → EncodingChoice → Encoding → Prop
  /-- The text is given directly, whatever encoding is chosen. -/
  | memory (tree : FileTree) (choice : EncodingChoice) : Stored t (.memory t) tree choice .utf8
  /-- The text stands in a file in UTF-8, which is chosen and not looked for. -/
  | plain {path : Path} {tree : FileTree} (file : tree.status path = .ok (.file (Utf8.encode t))) :
      Stored t (.located (.file path)) tree ⟨.utf8, false⟩ .utf8
  /-- The text stands in a file in a form that its marker shows, and the encoding is looked
  for. -/
  | marked {path : Path} {tree : FileTree} {choice : EncodingChoice} {e : Encoding}
      {marker : Bytes} (detects : choice.autoDetect = true) (hmarker : e.marker? = some marker)
      (form : e ≠ .utf8) (file : tree.status path = .ok (.file (marker ++ e.body t))) :
      Stored t (.located (.file path)) tree choice e

section

variable {w : Surroundings} {choice : EncodingChoice} {s : Source} {tree : FileTree}
  {t : Text} {e : Encoding}

/-- A file is opened at its path. -/
theorem opened?_of_file {path : Path} {content : Bytes} (hinput : s.input = .located (.file path))
    (hfile : tree.status path = .ok (.file content)) :
    opened? w choice s tree =
      some ⟨.file path, content, workingEncoding choice false (some content)⟩ := by
  have hreadable : (Location.file path).isReadable tree = true := by
    simp only [Location.isReadable, Location.path?, hfile]
  have hread : (Origin.file path).read tree = .ok content := by
    simp only [Origin.read, FileTree.read, hfile]
  rw [opened?, hinput]
  simp only [resolve, hreadable, if_true, hread]
  rfl

/-- However a text is stored, a run finds it in the encoding that it is to be read in, and a
marker in front is all that is not the text. -/
theorem opened?_of_stored (hhead : t.head? ≠ some '\uFEFF')
    (hstored : Stored t s.input tree choice e) :
    ∃ m, opened? w choice s tree = some m ∧ m.encoding = e ∧
      e.unmarked m.content = e.body t := by
  generalize hinput : s.input = input at hstored
  cases hstored with
  | memory tree choice =>
    refine ⟨⟨.scratch (Utf8.encode t), Utf8.encode t, .utf8⟩, ?_, rfl, ?_⟩
    · rw [opened?, hinput]
      rfl
    · exact Encoding.unmarked_of_decode (Utf8.decode_encode t) hhead
  | plain file =>
    refine ⟨_, opened?_of_file hinput file, rfl, ?_⟩
    exact Encoding.unmarked_of_decode (Utf8.decode_encode t) hhead
  | marked detects hmarker form file =>
    refine ⟨_, opened?_of_file hinput file, ?_, ?_⟩
    · show workingEncoding choice false (some _) = e
      rw [workingEncoding, if_neg Bool.false_ne_true, if_pos detects, Option.bind_some,
        detectFromHead?_marker_append hmarker form, Option.getD_some]
    · exact Encoding.unmarked_marker_append hmarker (e.body t)

/-- The encoding that a stored text is read in has a marker. -/
theorem exists_marker?_of_stored {input : Input} (hstored : Stored t input tree choice e) :
    ∃ marker, e.marker? = some marker := by
  cases hstored with
  | memory tree choice => exact ⟨_, rfl⟩
  | plain file => exact ⟨_, rfl⟩
  | marked detects hmarker form file => exact ⟨_, hmarker⟩

/-- A comment syntax that is set does not depend on the name of the source. -/
theorem scanner_eq_of_ne_auto {o : Options} (hcomments : o.commentSyntax ≠ .auto) (s : Source) :
    s.scanner o = .start o.commentSyntax none := by
  rw [scanner]
  cases hcase : o.commentSyntax with
  | auto => exact absurd hcase hcomments
  | _ => rfl

/-- What the main statement needs of one way to store a text. -/
theorem shown_of_stored {o : Options} (hhead : t.head? ≠ some '\uFEFF')
    (hpreprocessor : o.preprocessor = []) (hlineMatcher : o.lineMatcher = [])
    (hcomments : o.commentSyntax ≠ .auto) (hstored : Stored t s.input tree choice e)
    (hbytes : (e.body t).length ≤ o.limits.maxBytes) :
    (run w choice o s tree).source.appearance =
        .ofText o (.start o.commentSyntax none) t ∧
      (run w choice o s tree).source.encoding = some e := by
  obtain ⟨m, hopened, rfl, hcontent⟩ := opened?_of_stored (w := w) hhead hstored
  obtain ⟨marker, hmarker⟩ := exists_marker?_of_stored hstored
  have hpayload : payload m.encoding m.content = m.encoding.body t := by
    rw [payload_eq_unmarked, hcontent]
  have htext : documentText m.encoding m.content = t := by
    rw [documentText, hpayload]
    exact Encoding.decodeText_body fun c _ => Encoding.represents_of_marker? hmarker c
  refine ⟨?_, ?_⟩
  · rw [← hpayload] at hbytes
    rw [appearance_run hopened hpreprocessor hlineMatcher hbytes, htext,
      scanner_eq_of_ne_auto hcomments]
  · rw [run_of_opened? hopened]

/-- The text that is shown is the text with its lines ended by line feeds. -/
theorem text_of_shown {o : Options} {scanner : Comment.Scanner} {l : View.Lines}
    (h : (Appearance.ofText o scanner t).shown = some l) :
    ∃ raws, RawLine.WellEnded raws ∧ RawLine.written raws = t ∧
      l.text = raws.flatMap fun raw => raw.content ++ ['\n'] := by
  rw [Appearance.ofText] at h
  split at h
  · rename_i page scanner' own scanner'' hpage hown
    cases h
    rw [Page.ofText] at hpage
    split at hpage
    · cases hpage
    · rename_i raws hcut
      obtain ⟨hwell, hwritten, -⟩ := RawLine.cut_eq_ok_iff.1 hcut
      obtain ⟨rfl, -⟩ := Prod.mk.inj (Except.ok.inj hpage)
      exact ⟨raws, hwell, hwritten, Page.text_ofRaws_plain scanner raws⟩
  · cases h

end

/-! ## Main statement -/

variable {t : Text} {o : Options} {tree₁ tree₂ : FileTree} {choice₁ choice₂ : EncodingChoice}
  {e₁ e₂ : Encoding}

/-- **The views do not depend on how a text is stored.**  Take a text that does not begin
with U+FEFF, options without commands and a comment syntax that is set, and two ways to
store the text, neither longer than the limit.  What is shown of the two sources after a
run is the same function of the text, whatever they held before; each is read in the encoding
it was stored in; and the text that is shown is that of the lines alone, without a marker. -/
theorem appearance_of_stored (w₁ w₂ : Surroundings) (s₁ s₂ : Source)
    (hhead : t.head? ≠ some '\uFEFF') (hpreprocessor : o.preprocessor = [])
    (hlineMatcher : o.lineMatcher = []) (hcomments : o.commentSyntax ≠ .auto)
    (h₁ : Stored t s₁.input tree₁ choice₁ e₁) (h₂ : Stored t s₂.input tree₂ choice₂ e₂)
    (hbytes₁ : (e₁.body t).length ≤ o.limits.maxBytes)
    (hbytes₂ : (e₂.body t).length ≤ o.limits.maxBytes) :
    let one := (run w₁ choice₁ o s₁ tree₁).source
    let other := (run w₂ choice₂ o s₂ tree₂).source
    one.appearance = .ofText o (.start o.commentSyntax none) t ∧
      other.appearance = one.appearance ∧
      one.encoding = some e₁ ∧ other.encoding = some e₂ ∧
      ∀ l, one.display.lines? = some l →
        l.text.head? ≠ some '\uFEFF' ∧
          ∃ raws, RawLine.WellEnded raws ∧ RawLine.written raws = t ∧
            l.text = raws.flatMap fun raw => raw.content ++ ['\n'] := by
  obtain ⟨hone, hencoding₁⟩ :=
    shown_of_stored (w := w₁) hhead hpreprocessor hlineMatcher hcomments h₁ hbytes₁
  obtain ⟨hother, hencoding₂⟩ :=
    shown_of_stored (w := w₂) hhead hpreprocessor hlineMatcher hcomments h₂ hbytes₂
  refine ⟨hone, hother.trans hone.symm, hencoding₁, hencoding₂, ?_⟩
  intro l hl
  have hshown : (Appearance.ofText o (.start o.commentSyntax none) t).shown = some l := by
    rw [← hone]
    exact hl
  obtain ⟨raws, hwell, hwritten, htext⟩ := text_of_shown hshown
  refine ⟨?_, raws, hwell, hwritten, htext⟩
  rw [htext]
  rw [← hwritten] at hhead
  exact RawLine.head?_normalised (by decide) hhead

/-- A text that declares Latin-1, given directly or as a file in UTF-16, where Latin-1 is
chosen too. -/
theorem appearance_of_stored_declaration :
    let t : Text := "<meta charset='latin1'>\r\n𝄞 // é".toList
    let o : Options := { ignoreComments := true, ignoreCase := true, commentSyntax := .cStyle }
    let w : Surroundings := { host := ⟨fun _ _ => .error .notFound⟩ }
    let tree : FileTree :=
      { nodes := [(["work".toList], .directory),
          (["work".toList, ['a']], .file (0xFE :: 0xFF :: Utf16.encode .big t))] }
    let one := (run w {} o { input := .memory t } {}).source
    let other := (run w ⟨.latin1, true⟩ o { input := .located (.file ['a']) } tree).source
    tree.status ['a'] = .ok (.file (0xFE :: 0xFF :: Utf16.encode .big t)) ∧
      other.appearance = one.appearance ∧ one.encoding = some .utf8 ∧
      other.encoding = some .utf16be := by
  intro t o w tree one other
  have hfile : tree.status ['a'] = .ok (.file (0xFE :: 0xFF :: Utf16.encode .big t)) := rfl
  have h₁ : Stored t (.memory t) {} {} .utf8 := .memory {} {}
  have h₂ : Stored t (.located (.file ['a'])) tree ⟨.latin1, true⟩ .utf16be :=
    .marked rfl rfl (by decide) hfile
  obtain ⟨-, hshown, hencoding₁, hencoding₂, -⟩ := appearance_of_stored (o := o) w w
    { input := .memory t } { input := .located (.file ['a']) } (by decide) rfl rfl (by decide)
    h₁ h₂ (by decide) (by decide)
  exact ⟨hfile, hshown, hencoding₁, hencoding₂⟩

end Source

end TextIntake

import TextIntake.Proofs.File.Writing
import TextIntake.Proofs.Source.Ending
import TextIntake.Proofs.Source.Storage

set_option autoImplicit false

/-!
# Saving what is shown

What a source shows is saved as the bytes of its display view.  Read again in the encoding
that these bytes are in, they make the same page: its text, and where each line stands in it.
That encoding is the one which the source reports, unless the preprocessor has written the
bytes in an encoding of its own.

Main statement: `reloaded_of_saved`.
-/

namespace TextIntake

/-! ## Lines rescanned -/

namespace Page

theorem layout_ofRaws_plain (scanner scanner₂ : Comment.Scanner) (raws : List RawLine) :
    (ofRaws {} scanner raws).layout = (ofRaws {} scanner₂ raws).layout :=
  layout_ofLines_congr
    (by rw [Line.map_text_ofRaws_plain, Line.map_text_ofRaws_plain]) _ _

/-- Without a filter the scanner of its lines does not show in the layout of a document. -/
theorem ofBytes_rescanned {e : Encoding} {limits : Limits} {scanner scanner' : Comment.Scanner}
    {bs : Bytes} {page : Page} (h : ofBytes e limits {} scanner bs = .ok (page, scanner'))
    (scanner₂ : Comment.Scanner) :
    ∃ page₂ scanner₂', ofBytes e limits {} scanner₂ bs = .ok (page₂, scanner₂') ∧
      page₂.layout = page.layout := by
  rw [ofBytes_eq_map] at h ⊢
  cases hraws : rawLines e limits bs with
  | error refusal =>
    rw [hraws] at h
    cases h
  | ok raws =>
    rw [hraws] at h
    cases h
    exact ⟨_, _, rfl, layout_ofRaws_plain scanner₂ scanner raws⟩

end Page

/-! ## Commands that change the encoding -/

namespace Tooling

/-- A command has an output, in another encoding than that of the material. -/
def Retools (tooling : Tooling) (command : Text) (m : Material) (tree : FileTree) : Prop :=
  command ≠ [] ∧ (∃ output, (tooling.run command m tree).1 = .ok output) ∧
    ∃ e, tooling.encoding = some e ∧ e ≠ m.encoding

/-- A stage leads on with the encoding of its material, unless its command changes it. -/
theorem encoding_of_stage_iff {tooling : Tooling} {command : Text} {m output : Material}
    {tree : FileTree} (h : (tooling.stage command m tree).material = .ok output) :
    output.encoding = m.encoding ↔ ¬ tooling.Retools command m tree := by
  by_cases hcommand : command = []
  · rw [stage, if_pos hcommand] at h
    obtain rfl := Except.ok.inj h
    exact ⟨fun _ retools => retools.1 hcommand, fun _ => rfl⟩
  · rw [stage, if_neg hcommand] at h
    cases hrun : tooling.run command m tree with
    | mk result t =>
      rw [hrun] at h
      cases result with
      | ok filtered =>
        obtain rfl := Except.ok.inj h
        obtain ⟨content, rfl, -⟩ := exists_content_of_run hrun
        show tooling.encoding.getD m.encoding = m.encoding ↔ _
        constructor
        · rintro hsame ⟨-, -, e, htool, hother⟩
          rw [htool] at hsame
          exact hother hsame
        · intro hkept
          cases htool : tooling.encoding with
          | none => rfl
          | some e =>
            refine Decidable.byContradiction fun hother => hkept ?_
            exact ⟨hcommand, ⟨_, congrArg Prod.fst hrun⟩, e, htool, hother⟩
      | error reason =>
        refine ⟨fun _ => ?_, fun _ => ?_⟩
        · rintro ⟨-, ⟨filtered, hfiltered⟩, -⟩
          rw [hrun] at hfiltered
          cases hfiltered
        · dsimp only at h
          split at h
          · obtain rfl := Except.ok.inj h
            rfl
          · cases h

end Tooling

namespace Source

/-! ## What is shown when a run has ended well -/

section

variable {w : Surroundings} {choice : EncodingChoice} {o : Options} {s : Source}
  {tree : FileTree} {m : Material}

/-- A run that ends well and shows text has prepared it for the line matcher, or has found
nothing to read. -/
theorem prepared?_of_text (hended : (run w choice o s tree).report.fatal? = none)
    (htext : (run w choice o s tree).source.display.isText = true) :
    (∃ m, prepared? w choice o s tree = some m) ∨ opened? w choice s tree = none := by
  cases hopened : opened? w choice s tree with
  | none => exact .inr rfl
  | some input =>
    cases hprepared : prepared? w choice o s tree with
    | some m => exact .inl ⟨m, rfl⟩
    | none =>
      rw [run_of_opened? hopened] at hended htext
      rcases (buildViews_of_prepared?_none hopened hprepared).2 with hfatal | hbinary
      · exact absurd hended hfatal
      · rw [hbinary] at htext
        cases htext

/-- What a run that ends well shows of the text that it has prepared. -/
theorem display_of_prepared? (hended : (run w choice o s tree).report.fatal? = none)
    (hprepared : prepared? w choice o s tree = some m) :
    ∃ page scanner', Page.ofBytes m.encoding o.limits {} (s.scanner o) m.content =
        .ok (page, scanner') ∧
      (run w choice o s tree).source.display.raw = some m.content ∧
      (run w choice o s tree).source.display.page.layout = page.layout := by
  obtain ⟨input, page, scanner', hopened, hmaterial, hpage⟩ := prepared?_eq_some hprepared
  refine ⟨page, scanner', hpage, ?_⟩
  rw [run_of_opened? hopened, buildViews_of_decoded hmaterial hpage] at hended ⊢
  dsimp only at hended ⊢
  have hcompares := comparing_buildComparison w o (s.scanner o) input.origin.name m
    { preprocessed o ((tooling w o).stage o.preprocessor input tree) with
      display := .ofPage m.content page }
  generalize buildComparison w o (s.scanner o) input.origin.name m _ = d at hended hcompares
  cases hcompares with
  | ended reported fatal => exact absurd hended (Report.fatal?_ne_none reported fatal)
  | unbuilt display comparison =>
    rw [display]
    exact ⟨rfl, rfl⟩
  | built reads copies decodes comparison display =>
    rw [display]
    split
    · exact ⟨rfl, View.layout_adoptCommentFlags _ _⟩
    · exact ⟨rfl, rfl⟩

/-- The preprocessor has an output, in another encoding than that of the content. -/
def Retooled (w : Surroundings) (choice : EncodingChoice) (o : Options) (s : Source)
    (tree : FileTree) : Prop :=
  ∃ input, opened? w choice s tree = some input ∧
    (tooling w o).Retools o.preprocessor input tree

/-- What is shown is in the encoding of the content, unless the preprocessor has changed it. -/
theorem encoding_of_prepared? {input : Material} (hopened : opened? w choice s tree = some input)
    (hprepared : prepared? w choice o s tree = some m) :
    m.encoding = input.encoding ↔ ¬ Retooled w choice o s tree := by
  obtain ⟨again, page, scanner', hagain, hmaterial, -⟩ := prepared?_eq_some hprepared
  obtain rfl : again = input := Option.some.inj (hagain.symm.trans hopened)
  rw [Tooling.encoding_of_stage_iff hmaterial]
  refine not_congr ?_
  refine ⟨fun retools => ⟨again, hopened, retools⟩, ?_⟩
  rintro ⟨input, hinput, retools⟩
  obtain rfl : again = input := Option.some.inj (hopened.symm.trans hinput)
  exact retools

end

/-! ## Reading a file again -/

section

variable {w : Surroundings} {o : Options} {s : Source} {tree : FileTree} {path : Path}
  {content : Bytes} {e : Encoding}

/-- A file that is read in an encoding of choice, without commands, is shown as its page. -/
theorem display_of_file {page : Page} {scanner' : Comment.Scanner}
    (hinput : s.input = .located (.file path)) (hfile : tree.status path = .ok (.file content))
    (hpreprocessor : o.preprocessor = []) (hlineMatcher : o.lineMatcher = [])
    (hpage : Page.ofBytes e o.limits {} (s.scanner o) content = .ok (page, scanner')) :
    (run w ⟨e, false⟩ o s tree).source.display = .ofPage content page := by
  have hopened : opened? w ⟨e, false⟩ s tree = some ⟨.file path, content, e⟩ :=
    opened?_of_file hinput hfile
  obtain ⟨own, -, hdisplay, -⟩ := buildViews_of_split (m := ⟨.file path, content, e⟩)
    w tree hpreprocessor hlineMatcher hpage
  rw [run_of_opened? hopened]
  exact hdisplay

/-- The path of a file names that file, also when it looks like a URL. -/
theorem input_setFile_of_file (s : Source) (hfile : tree.status path = .ok (.file content)) :
    (s.setFile tree path).input = .located (.file path) := by
  have hset : path ≠ [] := by
    rintro rfl
    cases hfile
  have hthere : tree.exists? path = true := by
    rw [FileTree.exists?, hfile]
    rfl
  rw [setFile, if_neg hset]
  show Input.located (Location.read tree path) = _
  rw [Location.read, if_neg hset, hthere, Bool.or_true, if_pos rfl]

end

/-! ## Main statement -/

/-- What it means that one source shows again what another has shown. -/
structure Reloaded (saved again : Source) : Prop where
  bytes : again.display.raw = some saved.display.bytes
  /-- What was read shows the same page, the flags of its lines apart. -/
  layout : saved.hasData = true → again.display.page.layout = saved.display.page.layout
  /-- What was never read comes back as an empty page. -/
  empty : saved.hasData = false →
    saved.display = {} ∧ again.display.page.layout = (Page.ofLines [] .undefined false).layout

section

variable {w w' : Surroundings} {choice : EncodingChoice} {o o' : Options} {s : Source}
  {tree t t' : FileTree} {path : Path} {m : Material}

/-- The file to which a source was saved, read again. -/
def readAgain (w : Surroundings) (o : Options) (tree : FileTree) (path : Path) (e : Encoding) :
    Source :=
  (run w ⟨e, false⟩ o (({} : Source).setFile tree path) tree).source

/-- The file that a source was saved to. -/
theorem status_of_save (hsave : s.save t path = .ok t')
    (hplain : ∀ d, t.status path ≠ .ok (.device d)) :
    t'.status path = .ok (.file s.display.bytes) := by
  unfold save at hsave
  split at hsave
  · rename_i written hwrite
    obtain rfl := Except.ok.inj hsave
    exact (FileTree.status_of_write hwrite).resolve_right fun ⟨d, hd⟩ => hplain d hd
  · cases hsave

/-- Bytes that were shown as text are shown as the same text in the encoding that they are in. -/
theorem reloaded_of_prepared? (hended : (run w choice o s tree).report.fatal? = none)
    (hprepared : prepared? w choice o s tree = some m)
    (hfile : t'.status path =
      .ok (.file (run w choice o s tree).source.display.bytes))
    (hpreprocessor : o'.preprocessor = []) (hlineMatcher : o'.lineMatcher = [])
    (hlimits : o'.limits = o.limits) :
    Reloaded (run w choice o s tree).source (readAgain w' o' t' path m.encoding) := by
  obtain ⟨page, scanner', hpage, hraw, hlayout⟩ := display_of_prepared? hended hprepared
  generalize (run w choice o s tree).source = saved at hfile hraw hlayout
  have hbytes : saved.display.bytes = m.content := by rw [View.bytes, hraw, Option.getD_some]
  obtain ⟨page₂, scanner₂, hpage₂, hlayout₂⟩ :=
    Page.ofBytes_rescanned hpage ((({} : Source).setFile t' path).scanner o')
  rw [← hlimits, ← hbytes] at hpage₂
  have hdisplay : (readAgain w' o' t' path m.encoding).display =
      .ofPage saved.display.bytes page₂ :=
    display_of_file (input_setFile_of_file {} hfile) hfile hpreprocessor hlineMatcher hpage₂
  refine ⟨?_, fun _ => ?_, fun hunread => ?_⟩
  · rw [hdisplay]
    rfl
  · rw [hdisplay, hlayout]
    exact hlayout₂
  · rw [hasData, View.hasData, hraw] at hunread
    cases hunread

/-- Where nothing was read, an empty file is saved, and it is empty in every encoding. -/
theorem reloaded_of_opened?_none (e : Encoding) (hopened : opened? w choice s tree = none)
    (hfile : t'.status path =
      .ok (.file (run w choice o s tree).source.display.bytes))
    (hpreprocessor : o'.preprocessor = []) (hlineMatcher : o'.lineMatcher = []) :
    Reloaded (run w choice o s tree).source (readAgain w' o' t' path e) := by
  obtain ⟨hempty, -⟩ := views_of_opened?_none (o := o) hopened
  generalize (run w choice o s tree).source = saved at hfile hempty
  rw [hempty] at hfile
  have hdisplay : (readAgain w' o' t' path e).display = .ofPage [] _ :=
    display_of_file (input_setFile_of_file {} hfile) hfile hpreprocessor hlineMatcher
      (Page.ofBytes_nil ..)
  refine ⟨?_, fun hread => ?_, fun _ => ⟨hempty, ?_⟩⟩
  · rw [hdisplay, hempty]
    rfl
  · rw [hasData, hempty] at hread
    cases hread
  · rw [hdisplay]
    rfl

/-- **What is shown can be saved and read again.**  Take a run that no failure has ended and that
shows text, save what it shows to a file, and read that file with a new source: without commands,
with the same limits, and in an encoding that is set and not looked for.  In the encoding that
the preprocessor has left, the new source shows the same bytes as the same text, line by line.
This is the encoding which the first source reports, unless the preprocessor has an output in
another one. -/
theorem reloaded_of_saved (hended : (run w choice o s tree).report.fatal? = none)
    (htext : (run w choice o s tree).source.display.isText = true)
    (hsave : (run w choice o s tree).source.save t path = .ok t')
    (hplain : ∀ d, t.status path ≠ .ok (.device d))
    (hpreprocessor : o'.preprocessor = []) (hlineMatcher : o'.lineMatcher = [])
    (hlimits : o'.limits = o.limits) :
    let saved := (run w choice o s tree).source
    ∃ reported, saved.encoding = some reported ∧
      (¬ Retooled w choice o s tree → Reloaded saved (readAgain w' o' t' path reported)) ∧
      ∀ m, prepared? w choice o s tree = some m →
        Reloaded saved (readAgain w' o' t' path m.encoding) ∧
          (m.encoding = reported ↔ ¬ Retooled w choice o s tree) := by
  intro saved
  have hfile := status_of_save hsave hplain
  rcases prepared?_of_text hended htext with ⟨m, hprepared⟩ | hopened
  · obtain ⟨input, page, scanner', hopened, -⟩ := prepared?_eq_some hprepared
    have hencoding := encoding_of_prepared? hopened hprepared
    have hreloaded : Reloaded saved (readAgain w' o' t' path m.encoding) :=
      reloaded_of_prepared? hended hprepared hfile hpreprocessor hlineMatcher hlimits
    refine ⟨input.encoding, ?_, fun hkept => ?_, fun m' hm' => ?_⟩
    · show (run w choice o s tree).source.encoding = _
      rw [run_of_opened? hopened]
    · rw [← hencoding.2 hkept]
      exact hreloaded
    · obtain rfl : m = m' := Option.some.inj (hprepared.symm.trans hm')
      exact ⟨hreloaded, hencoding⟩
  · obtain ⟨fatal, e, -, hrun⟩ := run_of_opened?_none hopened
    refine ⟨e, ?_, fun _ => ?_, fun m hm => ?_⟩
    · have hagain : run w choice o s tree = _ := hrun w.host o
      show (run w choice o s tree).source.encoding = _
      rw [hagain]
    · exact reloaded_of_opened?_none e hopened hfile hpreprocessor hlineMatcher
    · obtain ⟨input, page, scanner', hinput, -⟩ := prepared?_eq_some hm
      rw [hopened] at hinput
      cases hinput

/-- A preprocessor that cannot be started, of an encoding of its own, leaves the encoding of the
content. -/
theorem reloaded_of_saved_without_tool :
    let w : Surroundings := { host := ⟨fun _ _ => .error .notFound⟩ }
    let o : Options := { preprocessor := ['p'], toolEncoding := some .latin1, limits := ⟨9, 99⟩ }
    let s : Source := { input := .memory ['\uFEFF', 'é', '\n'] }
    let saved := (run w {} o s {}).source
    let path : Path := ['/', 'f']
    let t : FileTree := { nodes := [([['f']], .file saved.display.bytes)] }
    save saved {} path = .ok t ∧ saved.encoding = some .utf8 ∧
      Reloaded saved (readAgain w { limits := ⟨9, 99⟩ } t path .utf8) := by
  intro w o s saved path t
  have hsave : save (run w {} o s {}).source {} path = .ok t := rfl
  have hkept : ¬ Retooled w {} o s {} := by
    rintro ⟨input, hinput, -, ⟨output, houtput⟩, -⟩
    cases hinput
    cases houtput
  have hended : (run w {} o s {}).report.fatal? = none := rfl
  have hplain : ∀ d, FileTree.status {} path ≠ .ok (.device d) := fun d hd => by cases hd
  have hlimits : Options.limits { limits := ⟨9, 99⟩ } = o.limits := rfl
  obtain ⟨reported, hreported, hreloaded, -⟩ :=
    reloaded_of_saved hended rfl hsave hplain rfl rfl hlimits
  obtain rfl := Option.some.inj hreported
  exact ⟨hsave, rfl, hreloaded hkept⟩

/-- A preprocessor that answers in UTF-16 leaves bytes that are not read back in the encoding
which the source reports. -/
theorem reloaded_of_saved_output_in_tool_encoding :
    let w : Surroundings :=
      { host := ⟨fun _ tree => .ok ⟨[0xFF, 0xFE, 0x41, 0x42], .exited 0, ⟨1⟩, tree⟩⟩ }
    let o : Options :=
      { preprocessor := ['p'], toolEncoding := some .utf16le, limits := ⟨9, 99⟩ }
    let s : Source := { input := .memory ['\uFEFF', 'A'] }
    let saved := (run w {} o s {}).source
    let path : Path := ['/', 'f']
    let t : FileTree := { nodes := [([['f']], .file [0xFF, 0xFE, 0x41, 0x42])] }
    let again := readAgain w { limits := ⟨9, 99⟩ } t path .utf8
    (run w {} o s {}).report.fatal? = none ∧ save saved {} path = .ok t ∧
      saved.encoding = some .utf8 ∧
      saved.display.page.text.map Char.toNat = [0x4241, 0x0A] ∧
      again.display.page.text.map Char.toNat = [0xFFFD, 0xFFFD, 0x41, 0x42, 0x0A] :=
  ⟨rfl, rfl, rfl, rfl, rfl⟩

end

end Source

end TextIntake

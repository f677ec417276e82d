import EventPipeline.CommandLine
import EventPipeline.Proofs.CommandLine.Arguments
import EventPipeline.Proofs.Document.Held
import EventPipeline.Proofs.Encoding.Utf8
import EventPipeline.Proofs.FileTree
import EventPipeline.Proofs.Json.Printable
import EventPipeline.Proofs.Pointy.Unified

/-!
# Converting there and back

A command that makes a text writes it, if it can be written, and changes no other file
(`run_of_execute`). What a command writes has no carriage returns, whatever it reads, so the next
command reads it as it was written (`readText_of_encode`).

So a file of pointy text goes through both formats and is at rest after one turn: it is converted to
interchange text, to pointy text, and the same once more, and both pointy texts are the same
(`run_four`). The interchange texts may differ in the connections that lead nowhere, which are left
out of pointy text.
-/

namespace EventPipeline.CommandLine

/-! ## Running command lines -/

/-- Runs command lines one after the other, each on the files that the one before it leaves
behind. -/
def runAll (files : FileTree Bytes) : List (List Text) → List Ending × FileTree Bytes
  | [] => ([], files)
  | args :: rest =>
    let first := run files args
    let (endings, files) := runAll first.files rest
    (first.toEnding :: endings, files)

/-- A command that makes a text for a file that can be written succeeds and writes that file. -/
lemma run_of_execute {files : FileTree Bytes} {args : List Text} {i : Invocation}
    (hargs : readArguments args = .ok i) {text path : Text}
    (htext : (execute files.read (.ok Grid.standard) i.command).result =
      .ok (.text text (.text path)))
    {place : Path} (hplace : files.writablePlace path = .ok place) :
    (run files args).exitCode = 0 ∧
      (run files args).files = files.putAt place (Utf8.encode text) := by
  have hwritten : writeFile files (execute files.read (.ok Grid.standard) i.command) =
      .ok (files.putAt place (Utf8.encode text)) := by
    rw [writeFile, Report.file?, htext]
    dsimp only
    rw [FileTree.write, hplace]
    rfl
  rw [run, hargs]
  dsimp only [runInvocation, deliver]
  rw [hwritten]
  refine ⟨?_, rfl⟩
  rw [conclude, htext]
  rfl

/-! ## Files that were written -/

section Read

variable {files : FileTree Bytes} {path : Text}

/-- The text of a file is what its bytes stand for, with its line ends unified. -/
lemma readText_of_decode {bytes : Bytes} {s : Text} (hread : files.read path = .ok bytes)
    (hbytes : Utf8.decode bytes = .ok s) :
    readText files.read path = .ok s.universalNewlines := by
  rw [readText, hread]
  dsimp only
  rw [SlotFile.textOfBytes, hbytes]
  rfl

/-- A text without carriage returns is read from a file as it was written. -/
lemma readText_of_encode {s : Text} (hread : files.read path = .ok (Utf8.encode s))
    (hs : '\r' ∉ s) : readText files.read path = .ok s := by
  rw [readText_of_decode hread (Utf8.decode_encode s), Text.universalNewlines_eq_self hs]

end Read

/-! ## Documents that were read -/

section Document

variable {strict : Bool} {s : Text} {reading : Pointy.Reading}

/-- A document that was read is admitted. -/
lemma admitted_of_read {grid : Grid} (h : Pointy.read strict grid s = .ok reading) :
    reading.document.Admitted := by
  have hheld := Document.held_of_read h
  refine hheld.admitted ((Document.isWritable_iff _).2 fun c hc => ?_)
  obtain ⟨positions, -, -, hdocument, -⟩ := Pointy.exists_positions_of_read h
  rw [hdocument] at hc
  contradiction

/-- Converting a file of pointy text makes the interchange text of the document that is read from
it. -/
lemma execute_parse {read : Text → Except PathError Bytes} {file : Text}
    (hs : readText read file = .ok s) (h : Pointy.read strict Grid.standard s = .ok reading)
    (output : OptionValue) :
    (execute read (.ok Grid.standard) (.parse file output strict .absent)).result =
      .ok (.text (reading.document.render (.indented 2)) output) := by
  have hpointy : readPointy read (.ok Grid.standard) file strict = .ok reading := by
    unfold readPointy
    rw [hs]
    dsimp only
    rw [h]
    rfl
  have hconfig : reading.document.withConfig none = reading.document := by
    obtain ⟨positions, -, -, hdocument, -⟩ := Pointy.exists_positions_of_read h
    rw [hdocument]
    rfl
  have hwrite := ((admitted_of_read h).ofText_write? (Json.Style.isBlank_ofIndent (some 2))).1
  have hindented : Json.Style.ofIndent (some 2) = .indented 2 := rfl
  rw [execute, executeParse, hpointy]
  dsimp only [readConfig, OptionValue.path?]
  rw [hconfig, ← hindented, hwrite]

/-- Converting a file of interchange text makes the pointy text of its document. -/
lemma execute_compile {read : Text → Except PathError Bytes} {file : Text} {d : Document}
    (hd : readDocument read file = .ok d) (grid : Except GridError Grid) (output : OptionValue) :
    (execute read grid (.compile file output)).result = .ok (.text (Pointy.write d) output) := by
  rw [execute, hd]

/-- The interchange text of a document that was read is loaded as that document with the empty
configuration. -/
lemma readDocument_of_encode {grid : Grid} (h : Pointy.read strict grid s = .ok reading)
    {files : FileTree Bytes} {path : Text}
    (hread : files.read path = .ok (Utf8.encode (reading.document.render (.indented 2)))) :
    readDocument files.read path = .ok reading.document.settled := by
  have hload := ((admitted_of_read h).ofText_write? (Json.Style.isBlank_ofIndent (some 2))).2
  rw [readDocument, readText_of_encode hread (Json.return_not_mem_render_indented 2 _)]
  exact mapError_eq_ok_iff.2 hload

end Document

/-! ## Conversions -/

section Run

variable {files : FileTree Bytes} {args : List Text} {verbose strict : Bool} {file output : Text}
  {place : Path}

/-- Converting a file of pointy text writes the document that is read from it. -/
lemma run_parse (hargs : readArguments args =
      .ok ⟨verbose, .parse file (.text output) strict .absent⟩)
    {s : Text} (hs : readText files.read file = .ok s) {reading : Pointy.Reading}
    (h : Pointy.read strict Grid.standard s = .ok reading)
    (hplace : files.writablePlace output = .ok place) :
    (run files args).exitCode = 0 ∧ (run files args).files =
      files.putAt place (Utf8.encode (reading.document.render (.indented 2))) :=
  run_of_execute hargs (execute_parse hs h _) hplace

/-- Converting a file of interchange text writes the pointy text of its document. -/
lemma run_compile (hargs : readArguments args = .ok ⟨verbose, .compile file (.text output)⟩)
    {d : Document} (hd : readDocument files.read file = .ok d)
    (hplace : files.writablePlace output = .ok place) :
    (run files args).exitCode = 0 ∧
      (run files args).files = files.putAt place (Utf8.encode (Pointy.write d)) :=
  run_of_execute hargs (execute_compile hd _ _) hplace

end Run

/-- Running some command lines behind others is running them on the files that those leave
behind. -/
lemma runAll_append (files : FileTree Bytes) (front back : List (List Text)) :
    runAll files (front ++ back) =
      ((runAll files front).1 ++ (runAll (runAll files front).2 back).1,
        (runAll (runAll files front).2 back).2) := by
  induction front generalizing files with
  | nil => rfl
  | cons args front ih =>
    rw [List.cons_append, runAll, ih]
    rfl

/-! ## Both formats of a document -/

/-- The files after a document was written as interchange text to one place and as pointy text to
another one. -/
def putBoth (files : FileTree Bytes) (j p : Path) (d : Document) : FileTree Bytes :=
  (files.putAt j (Utf8.encode (d.render (.indented 2)))).putAt p (Utf8.encode (Pointy.write d))

section PutBoth

variable {files : FileTree Bytes} {path : Text} {place j p : Path}

/-- Writing both formats keeps every path that led to a place. -/
lemma resolve_putBoth (h : files.resolve path = .ok place) (j p : Path) (d : Document) :
    (putBoth files j p d).resolve path = .ok place :=
  FileTree.resolve_putAt p _ (FileTree.resolve_putAt j _ h)

/-- Writing both formats keeps the places where files can be written. -/
lemma writablePlace_putBoth (h : files.writablePlace path = .ok place) (j p : Path) (d : Document) :
    (putBoth files j p d).writablePlace path = .ok place :=
  FileTree.writablePlace_putAt (FileTree.writablePlace_putAt h j _) p _

/-- Writing both formats changes no other file. -/
lemma read_putBoth_of_ne (h : files.resolve path = .ok place) (hj : place ≠ j) (hp : place ≠ p)
    {bytes : Bytes} (hread : files.read path = .ok bytes) (d : Document) :
    (putBoth files j p d).read path = .ok bytes :=
  FileTree.read_putAt_of_ne (FileTree.resolve_putAt j _ h) hp
    (FileTree.read_putAt_of_ne h hj hread _) _

/-- The interchange text is read where it was written. -/
lemma read_putBoth_interchange (h : files.writablePlace path = .ok j) (hne : j ≠ p)
    (d : Document) :
    (putBoth files j p d).read path = .ok (Utf8.encode (d.render (.indented 2))) := by
  have hresolve := (FileTree.writablePlace_eq_ok_iff.1 h).2.1
  exact FileTree.read_putAt_of_ne (FileTree.resolve_putAt j _ hresolve) hne
    (FileTree.read_putAt_self _ h) _

/-- The pointy text is read where it was written. -/
lemma read_putBoth_pointy (h : files.writablePlace path = .ok p) (j : Path) (d : Document) :
    (putBoth files j p d).read path = .ok (Utf8.encode (Pointy.write d)) :=
  FileTree.read_putAt_self _ (FileTree.writablePlace_putAt h j _)

/-- What is written twice, to places that are not one another, is all there in the end. -/
lemma read_putBoth_putBoth {source json pointy json' pointy' : Text} {f j' p' : Path}
    (hf : files.resolve source = .ok f)
    (hj : files.writablePlace json = .ok j) (hp : files.writablePlace pointy = .ok p)
    (hj' : files.writablePlace json' = .ok j') (hp' : files.writablePlace pointy' = .ok p')
    (hdistinct : [f, j, p, j', p'].Nodup) {bytes : Bytes} (hread : files.read source = .ok bytes)
    (d d' : Document) :
    let last := putBoth (putBoth files j p d) j' p' d'
    last.read source = .ok bytes ∧
      last.read json = .ok (Utf8.encode (d.render (.indented 2))) ∧
      last.read pointy = .ok (Utf8.encode (Pointy.write d)) ∧
      last.read json' = .ok (Utf8.encode (d'.render (.indented 2))) ∧
      last.read pointy' = .ok (Utf8.encode (Pointy.write d')) := by
  simp only [List.nodup_cons, List.mem_cons, List.not_mem_nil, or_false, not_or] at hdistinct
  obtain ⟨⟨hfj, hfp, hfj', hfp'⟩, ⟨hjp, hjj', hjp'⟩, ⟨hpj', hpp'⟩, ⟨hother, -⟩⟩ := hdistinct
  have hresolveJ := (FileTree.writablePlace_eq_ok_iff.1 hj).2.1
  have hresolveP := (FileTree.writablePlace_eq_ok_iff.1 hp).2.1
  have hkept : ∀ {path place bytes}, files.resolve path = .ok place → place ≠ j' → place ≠ p' →
      (putBoth files j p d).read path = .ok bytes →
        (putBoth (putBoth files j p d) j' p' d').read path = .ok bytes :=
    fun hresolve hne hne' h => read_putBoth_of_ne (resolve_putBoth hresolve j p d) hne hne' h d'
  exact ⟨hkept hf hfj' hfp' (read_putBoth_of_ne hf hfj hfp hread d),
    hkept hresolveJ hjj' hjp' (read_putBoth_interchange hj hjp d),
    hkept hresolveP hpj' hpp' (read_putBoth_pointy hp j d),
    read_putBoth_interchange (writablePlace_putBoth hj' j p d) hother d',
    read_putBoth_pointy (writablePlace_putBoth hp' j p d) j' d'⟩

end PutBoth

/-! ## Turns -/

section Turn

variable {files : FileTree Bytes} {source json pointy s : Text} {j p : Path} {strict v w : Bool}
  {first second : List Text} {reading : Pointy.Reading}

/-- Converting a file to interchange text and that to pointy text writes the document that is read
from the file in both formats. -/
lemma runAll_turn (hs : readText files.read source = .ok s)
    (h : Pointy.read strict Grid.standard s = .ok reading)
    (hj : files.writablePlace json = .ok j) (hp : files.writablePlace pointy = .ok p)
    (hfirst : readArguments first = .ok ⟨v, .parse source (.text json) strict .absent⟩)
    (hsecond : readArguments second = .ok ⟨w, .compile json (.text pointy)⟩) :
    (runAll files [first, second]).1.map Ending.exitCode = [0, 0] ∧
      (runAll files [first, second]).2 = putBoth files j p reading.document := by
  obtain ⟨hcode, hfiles⟩ := run_parse hfirst hs h hj
  have hload := readDocument_of_encode h (FileTree.read_putAt_self _ hj)
  obtain ⟨hcode', hfiles'⟩ := run_compile hsecond hload (FileTree.writablePlace_putAt hp j _)
  rw [← hfiles] at hcode' hfiles'
  refine ⟨?_, hfiles'.trans ?_⟩
  · simp only [runAll, List.map_cons, List.map_nil, hcode, hcode']
  · rw [hfiles]
    rfl

end Turn

/-- A file of pointy text is at rest when it was converted to interchange text and back: where the
files that are written can be written, and are not one another, all runs succeed, the pointy text is
that of the document that is read from the file, and another turn gives the same pointy text and the
same nodes. The command lines are any that are read as these conversions, such as those of operands
behind the options. -/
theorem runAll_twoTurns :
    (∀ file output, IsOperand file → IsOperand output →
      (∀ strict, readArguments (parseLine file output strict) =
        .ok ⟨false, .parse file (.text output) strict .absent⟩) ∧
      readArguments (compileLine file output) = .ok ⟨false, .compile file (.text output)⟩) ∧
    ∀ {files : FileTree Bytes} {bytes : Bytes} {s : Text}
      {source json pointy json' pointy' : Text} {f j p j' p' : Path}
      {strict strict' v₁ v₂ v₃ v₄ : Bool} {first second third fourth : List Text},
      files.read source = .ok bytes → Utf8.decode bytes = .ok s → s.length < 10 ^ 300 →
      files.resolve source = .ok f →
      files.writablePlace json = .ok j → files.writablePlace pointy = .ok p →
      files.writablePlace json' = .ok j' → files.writablePlace pointy' = .ok p' →
      [f, j, p, j', p'].Nodup →
      readArguments first = .ok ⟨v₁, .parse source (.text json) strict .absent⟩ →
      readArguments second = .ok ⟨v₂, .compile json (.text pointy)⟩ →
      readArguments third = .ok ⟨v₃, .parse pointy (.text json') strict' .absent⟩ →
      readArguments fourth = .ok ⟨v₄, .compile json' (.text pointy')⟩ →
      ∃ reading endings last d d',
        Pointy.read strict Grid.standard s.universalNewlines = .ok reading ∧
        runAll files [first, second, third, fourth] = (endings, last) ∧
        endings.map Ending.exitCode = [0, 0, 0, 0] ∧
        last.read source = .ok bytes ∧
        last.read pointy = .ok (Utf8.encode (Pointy.write reading.document)) ∧
        last.read pointy' = last.read pointy ∧
        readDocument last.read json = .ok d ∧ readDocument last.read json' = .ok d' ∧
        d.nodes = reading.document.nodes ∧ d'.nodes = d.nodes := by
  refine ⟨fun file output hfile houtput => ⟨readArguments_parseLine hfile houtput,
    readArguments_compileLine hfile houtput⟩, ?_⟩
  intro files bytes s source json pointy json' pointy' f j p j' p' strict strict' v₁ v₂ v₃ v₄
    first second third fourth hread hbytes hlength hf hj hp hj' hp' hdistinct hfirst hsecond hthird
    hfourth
  have hunified : '\r' ∉ s.universalNewlines := s.return_not_mem_universalNewlines
  obtain ⟨reading, hreading⟩ := Pointy.exists_read strict
    (s.length_universalNewlines_le.trans_lt hlength)
  obtain ⟨reread, hreread, hnodes, hagain⟩ :=
    Pointy.exists_reread_of_return_not_mem hreading hunified strict'
  obtain ⟨hcodes, hmiddle⟩ :=
    runAll_turn (readText_of_decode hread hbytes) hreading hj hp hfirst hsecond
  -- The second turn starts from the pointy text of the first one.
  have hpointy := read_putBoth_pointy hp j reading.document
  have hwrite := Pointy.return_not_mem_write_of_read hreading hunified
  obtain ⟨hcodes', hlast⟩ := runAll_turn (readText_of_encode hpointy hwrite) hreread
    (writablePlace_putBoth hj' j p _) (writablePlace_putBoth hp' j p _) hthird hfourth
  have hrun := runAll_append files [first, second] [third, fourth]
  rw [hmiddle, hlast] at hrun
  obtain ⟨hsource, hinterchange, hwritten, hinterchange', hwritten'⟩ :=
    read_putBoth_putBoth hf hj hp hj' hp' hdistinct hread reading.document reread.document
  refine ⟨reading, _, _, reading.document.settled, reread.document.settled, hreading, hrun, ?_,
    hsource, hwritten, ?_, readDocument_of_encode hreading hinterchange,
    readDocument_of_encode hreread hinterchange', rfl, hnodes⟩
  · rw [List.map_append, hcodes, hcodes']
    rfl
  · rw [hwritten, hwritten', hagain]

/-- A pointy text with line ends of all kinds, a name that is declared again and a connection to
nowhere. -/
def mixedEnds : Text :=
  ['f', '{', '\r', '\r', '\n', 'x', '\r', '}', '\n', 'f', '-', '>', 'g', '\r', '\n', 'f', '{',
    '\r', '\n', '}', '\r', 'f', '-', '>', 'f']

/-- The text in a file beside a directory. -/
def besideDirectory : FileTree Bytes where
  directories := [[['d']]]
  files := [([['f']], Utf8.encode mixedEnds)]

/-- The conversions go to files in the directory and beside it, and both pointy texts are the
same. -/
theorem runAll_twoTurns_besideDirectory :
    besideDirectory.read ['f'] = .ok (Utf8.encode mixedEnds) ∧ mixedEnds.length < 10 ^ 300 ∧
      besideDirectory.writablePlace ['d', '/', 'p'] = .ok [['d'], ['p']] ∧
      ∃ reading endings last d d',
        Pointy.read true Grid.standard mixedEnds.universalNewlines = .ok reading ∧
        runAll besideDirectory [parseLine ['f'] ['j'] true, compileLine ['j'] ['d', '/', 'p'],
          parseLine ['d', '/', 'p'] ['d', '/', 'j'] false, compileLine ['d', '/', 'j'] ['p']] =
            (endings, last) ∧
        endings.map Ending.exitCode = [0, 0, 0, 0] ∧
        last.read ['f'] = .ok (Utf8.encode mixedEnds) ∧
        last.read ['d', '/', 'p'] = .ok (Utf8.encode (Pointy.write reading.document)) ∧
        last.read ['p'] = last.read ['d', '/', 'p'] ∧
        readDocument last.read ['j'] = .ok d ∧ readDocument last.read ['d', '/', 'j'] = .ok d' ∧
        d.nodes = reading.document.nodes ∧ d'.nodes = d.nodes := by
  have hread : besideDirectory.read ['f'] = .ok (Utf8.encode mixedEnds) := by rfl
  have hlength : mixedEnds.length < 10 ^ 300 := Pointy.length_lt_of_short (by decide)
  have hoperand : ∀ c rest, c ≠ '-' → IsOperand (c :: rest) :=
    fun c rest hc other h => absurd (List.cons.inj h).1 hc
  have hf := hoperand 'f' [] (by decide)
  have hj := hoperand 'j' [] (by decide)
  have hp := hoperand 'p' [] (by decide)
  have hd := fun rest => hoperand 'd' rest (by decide)
  have hsource : besideDirectory.resolve ['f'] = .ok [['f']] := by decide
  have hplaceJ : besideDirectory.writablePlace ['j'] = .ok [['j']] := by decide
  have hplaceP : besideDirectory.writablePlace ['d', '/', 'p'] = .ok [['d'], ['p']] := by decide
  have hplaceJ' : besideDirectory.writablePlace ['d', '/', 'j'] = .ok [['d'], ['j']] := by decide
  have hplaceP' : besideDirectory.writablePlace ['p'] = .ok [['p']] := by decide
  obtain ⟨hlines, hturns⟩ := runAll_twoTurns
  exact ⟨hread, hlength, hplaceP, hturns hread (Utf8.decode_encode mixedEnds) hlength hsource
    hplaceJ hplaceP hplaceJ' hplaceP' (by decide) ((hlines _ _ hf hj).1 true)
    (hlines _ _ hj (hd _)).2 ((hlines _ _ (hd _) (hd _)).1 false) (hlines _ _ (hd _) hp).2⟩

end EventPipeline.CommandLine

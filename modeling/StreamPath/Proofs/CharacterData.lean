/-
Which characters of a document a handler is given. Character data comes in stretches: runs of text,
which go on over references until other markup interrupts them, and CDATA sections. Each stretch
becomes the value of one node, or of none, if it is a run of nothing but white space. That is white
space in the sense of Unicode, which has more characters than the blanks of markup: a run of such
characters is lost although it is not blank.
-/

import Mathlib.Data.List.TakeWhile
import StreamPath.Proofs.Delivery
import StreamPath.Proofs.Trimming

namespace StreamPath

/-! ### Character data -/

/-- The characters that a piece holds as content: its text, what its reference stands for, or what
stands in a CDATA section. -/
def Markup.characterData : Markup → List Char
  | characters content | cdata content => content
  | reference name => (Reference.resolve? name).toList
  | _ => []

/-- The value of a node of text or of a CDATA section. -/
def Node.characterData (node : Node) : List Char :=
  match node.kind with
  | .text | .cdata => node.stringValue.toList
  | _ => []

/-- The value of the node of text or of a CDATA section that has begun. -/
def Call.characterData : Call → List Char
  | .node (some top) => top.characterData
  | _ => []

/-- Character data that becomes the value of one node, or of none. -/
inductive Stretch where
  | text (content : List Char)
  | cdata (content : List Char)

namespace Stretch

/-- The characters of a stretch. -/
def characters : Stretch → List Char
  | text content | cdata content => content

/-- The characters of a stretch that a node has as its value. -/
def kept : Stretch → List Char
  | text content => if content.all Text.isSpace then [] else content
  | cdata content => content

end Stretch

namespace Markup

/-- The CDATA section that a piece is, if it is one. -/
def sections : Markup → List Stretch
  | cdata content => [.cdata content]
  | _ => []

/-- The stretches of the pieces of a document, the first of which goes on with the text that has
been gathered. -/
def stretches (gathered : List Char) : List Markup → List Stretch
  | [] => [.text gathered]
  | piece :: rest =>
    if piece.interrupts then .text gathered :: (piece.sections ++ stretches [] rest)
    else stretches (gathered ++ piece.characterData) rest

/-- The stretches hold all characters, in order. -/
theorem characters_stretches (gathered : List Char) (pieces : List Markup) :
    (stretches gathered pieces).flatMap Stretch.characters =
      gathered ++ pieces.flatMap characterData := by
  induction pieces generalizing gathered with
  | nil => rfl
  | cons piece rest inductionHypothesis =>
    rw [stretches]
    split
    · next interrupts =>
      have ofPiece : piece.sections.flatMap Stretch.characters = piece.characterData := by
        cases piece with
        | characters | reference => cases interrupts
        | cdata content => exact List.append_nil content
        | _ => rfl
      rw [List.flatMap_cons, List.flatMap_append, inductionHypothesis, ofPiece]
      rfl
    · rw [inductionHypothesis, List.flatMap_cons, List.append_assoc]

end Markup

/-! ### What a drive makes of character data -/

section Giving

variable {σ : Type}

/-- Whether a computation of a drive, if it succeeds, gives a handler some character data and has
then gathered some more. -/
def Drive.Gives (plain : Drive σ Unit) (watched : Drive (σ × List Call) Unit) (start : Progress σ)
    (given pending : List Char) : Prop :=
  Drive.Notes plain watched start
    (fun _ calls after => calls.flatMap Call.characterData = given ∧ after.pending = pending)
    fun _ _ => True

namespace Drive.Gives

variable {first second : Drive σ Unit} {first' second' : Drive (σ × List Call) Unit}
  {start : Progress σ} {given given' pending pending' : List Char}

/-- One computation behind the other gives what the one gives and then what the other does. -/
theorem bind (one : Gives first first' start given pending)
    (two : ∀ middle : Progress σ, middle.pending = pending →
      Gives second second' middle given' pending') :
    Gives (first >>= fun _ => second) (first' >>= fun _ => second') start (given ++ given')
      pending' := by
  refine Drive.Notes.bind one (fun _ _ => id) ?_
  rintro _ earlier middle ⟨rfl, gathered⟩
  refine (two middle gathered).mono ?_ fun _ _ => id
  rintro _ later after ⟨rfl, gatheredThere⟩
  exact ⟨List.flatMap_append, gatheredThere⟩

/-- Behind a computation that gives nothing the other one gives what is given. -/
theorem bind_right (one : Gives first first' start [] pending)
    (two : ∀ middle : Progress σ, middle.pending = pending →
      Gives second second' middle given' pending') :
    Gives (first >>= fun _ => second) (first' >>= fun _ => second') start given' pending' :=
  one.bind two

/-- Before a computation that gives nothing the one gives what is given. -/
theorem bind_left (one : Gives first first' start given pending)
    (two : ∀ middle : Progress σ, middle.pending = pending →
      Gives second second' middle [] pending') :
    Gives (first >>= fun _ => second) (first' >>= fun _ => second') start given pending' := by
  have both := one.bind two
  rwa [List.append_nil] at both

theorem of_error {error : StreamError} (ran : first start = (.error error, start))
    (same : ∀ earlier : List Call,
      first' (start.also earlier) = (.error error, start.also earlier)) :
    Gives first first' start given pending :=
  Drive.Notes.of_error ran same trivial

/-- A computation that calls nobody gives nothing. -/
theorem of_ok {after : Progress σ} (ran : first start = (.ok (), after))
    (same : ∀ earlier : List Call, first' (start.also earlier) = (.ok (), after.also earlier))
    (gathered : after.pending = pending) : Gives first first' start [] pending :=
  Drive.Notes.of_ok ran same ⟨rfl, gathered⟩

end Drive.Gives

/-! ### The parts of a drive -/

/-- With the default options text is kept unless it is nothing but white space. -/
theorem Scan.keepsText_eq (text : List Char) : keepsText {} text = !text.all Text.isSpace := by
  cases blank : text.all Text.isSpace with
  | true => exact (keepsText_eq_false_iff text).mpr (.inr ⟨rfl, Text.trim_eq_nil_iff.mpr blank⟩)
  | false =>
    refine eq_true_of_ne_false fun omitted => ?_
    rcases (keepsText_eq_false_iff text).mp omitted with rfl | ⟨-, empty⟩
    · cases blank
    · cases blank.symm.trans (Text.trim_eq_nil_iff.mp empty)

namespace Handler

/-- A watched handler notes each call with the node that is on top. -/
theorem listener_watched (handler : Handler σ) : handler.watched.listener =
    handler.listener.noting (fun progress => .node progress.chain.current?)
      fun progress => .endNode progress.chain.current? := rfl

variable (handler : Handler σ) {start : Progress σ}

/-- At the call for a node that has begun, the node is on top of the chain whatever happened before.
-/
theorem gives_enter (make : Nat → Node) :
    Drive.Gives (Drive.enter handler.listener make) (Drive.enter handler.watched.listener make)
      start (make start.scan.serial).characterData start.pending := by
  rw [listener_watched]
  refine .enter (fun after ran => ?_) fun _ _ _ => trivial
  obtain ⟨-, rfl⟩ := Prod.mk.inj ran
  have top : (start.entered (make start.scan.serial)).chain.current? =
      some (make start.scan.serial) :=
    Chain.current?_push _ _
  rw [top]
  exact ⟨List.append_nil _, rfl⟩

theorem gives_leave :
    Drive.Gives (Drive.leave handler.listener) (Drive.leave handler.watched.listener) start []
      start.pending := by
  rw [listener_watched]
  refine .leave (fun after ran => ?_) fun _ _ _ => trivial
  obtain ⟨-, rfl⟩ := Prod.mk.inj ran
  refine ⟨rfl, ?_⟩
  unfold Progress.pending Progress.left
  dsimp only
  split <;> rfl

theorem gives_leaf (make : Nat → Node) :
    Drive.Gives (Drive.leaf handler.listener make) (Drive.leaf handler.watched.listener make) start
      (make start.scan.serial).characterData start.pending :=
  (handler.gives_enter make).bind_left fun _ gathered => gathered ▸ handler.gives_leave

/-- The gathered text is given unless it is nothing but white space. -/
theorem gives_flush :
    Drive.Gives (Drive.flush handler.listener {}) (Drive.flush handler.watched.listener {}) start
      (Stretch.text start.pending).kept [] := by
  rw [Stretch.kept]
  rw [listener_watched]
  refine .flush (fun keeps => ?_) fun omitted => ?_
  · rw [Scan.keepsText_eq, Bool.not_eq_true'] at keeps
    rw [keeps]
    have value : (Node.text start.scan.serial (String.ofList start.pending)).characterData =
      start.pending := String.toList_ofList
    have given : Drive.Gives _ _ start.cleared _ [] := handler.gives_leaf fun serial =>
      Node.text serial (String.ofList start.pending)
    rw [show (Node.text start.cleared.scan.serial (String.ofList start.pending)).characterData =
      start.pending from value] at given
    exact given
  · rw [Scan.keepsText_eq, Bool.not_eq_false'] at omitted
    rw [omitted]
    exact ⟨rfl, rfl⟩

theorem gives_beginElement {position : Nat} {body : List Char} :
    Drive.Gives (Drive.beginElement handler.listener position body)
      (Drive.beginElement handler.watched.listener position body) start [] start.pending := by
  rw [listener_watched]
  refine .beginElement (fun node made => ?_) fun _ _ => trivial
  have none : node.characterData = [] := by
    unfold Node.characterData
    rw [Node.kind_of_ofTag made]
  have given : Drive.Gives _ _ (start.inside node) _ start.pending :=
    handler.gives_enter fun _ => node
  rw [none] at given
  exact given

/-! ### Pieces of markup -/

/-- A piece that does not interrupt text adds what it holds as content to what has been gathered. -/
theorem gives_textual {piece : Markup} (textual : piece.interrupts = false) (position : Nat) :
    Drive.Gives (Drive.piece handler.listener {} position piece)
      (Drive.piece handler.watched.listener {} position piece) start []
      (start.pending ++ piece.characterData) := by
  cases piece with
  | characters content => exact .of_ok rfl (fun _ => rfl) rfl
  | reference name =>
    unfold Drive.piece Markup.characterData
    dsimp only
    cases Reference.resolve? name with
    | some c => exact .of_ok rfl (fun _ => rfl) rfl
    | none => exact .of_error rfl fun _ => rfl
  | doctype body => exact .of_ok rfl (fun _ => rfl) (List.append_nil _).symm
  | instruction content =>
    have declares : Markup.isXmlDeclaration content = true := by
      rw [Markup.interrupts, Bool.not_eq_false'] at textual
      exact textual
    unfold Drive.piece
    dsimp only
    rw [declares]
    exact .of_ok rfl (fun _ => rfl) (List.append_nil _).symm
  | _ => cases textual

/-- A piece that interrupts text ends a stretch, and may be one itself. -/
theorem gives_interrupting {piece : Markup} (interrupts : piece.interrupts = true)
    (position : Nat) :
    Drive.Gives (Drive.piece handler.listener {} position piece)
      (Drive.piece handler.watched.listener {} position piece) start
      ((Stretch.text start.pending).kept ++ piece.sections.flatMap Stretch.kept) [] := by
  have ofLeaf : ∀ (make : Nat → Node) (content : List Char),
      (∀ serial, (make serial).characterData = content) →
      Drive.Gives (Drive.flush handler.listener {} >>= fun _ => Drive.leaf handler.listener make)
        (Drive.flush handler.watched.listener {} >>= fun _ =>
          Drive.leaf handler.watched.listener make)
        start ((Stretch.text start.pending).kept ++ content) [] := by
    intro make content value
    refine handler.gives_flush.bind fun middle gathered => ?_
    have given : Drive.Gives _ _ middle _ _ := handler.gives_leaf make
    rwa [value, gathered] at given
  cases piece with
  | characters | reference | doctype => cases interrupts
  | startTag body =>
    exact handler.gives_flush.bind fun _ gathered => gathered ▸ handler.gives_beginElement
  | emptyTag body =>
    refine handler.gives_flush.bind fun middle gathered => ?_
    exact handler.gives_beginElement.bind_right fun inside still =>
      gathered ▸ still ▸ handler.gives_leave
  | endTag body =>
    exact handler.gives_flush.bind fun _ gathered => gathered ▸ handler.gives_leave
  | cdata content =>
    have given := ofLeaf (fun serial => Node.cdata serial (String.ofList content)) content
      fun _ => String.toList_ofList
    rw [Markup.sections, List.flatMap_singleton, Stretch.kept]
    exact given
  | comment content =>
    exact ofLeaf (fun serial => Node.comment serial (String.ofList content)) [] fun _ => rfl
  | instruction content =>
    rw [Markup.interrupts, Bool.not_eq_true'] at interrupts
    unfold Drive.piece
    dsimp only
    rw [interrupts]
    exact ofLeaf _ [] fun _ => rfl

/-- What is kept of the stretches of some pieces is given, the last of them when the text behind the
pieces has become a node. -/
theorem gives_pieces (pieces : List (Nat × Markup)) :
    Drive.Gives
      (Drive.pieces handler.listener {} pieces >>= fun _ => Drive.flush handler.listener {})
      (Drive.pieces handler.watched.listener {} pieces >>= fun _ =>
        Drive.flush handler.watched.listener {})
      start ((Markup.stretches start.pending (pieces.map Prod.snd)).flatMap Stretch.kept) [] := by
  induction pieces generalizing start with
  | nil =>
    rw [List.map_nil, Markup.stretches, List.flatMap_singleton]
    exact handler.gives_flush
  | cons entry rest inductionHypothesis =>
    obtain ⟨position, piece⟩ := entry
    rw [Drive.pieces, Drive.pieces, bind_assoc, bind_assoc, List.map_cons, Markup.stretches]
    cases interrupts : piece.interrupts with
    | true =>
      rw [if_pos rfl, List.flatMap_cons, List.flatMap_append, ← List.append_assoc]
      refine (handler.gives_interrupting interrupts position).bind fun middle gathered => ?_
      have later : Drive.Gives _ _ middle _ [] := inductionHypothesis
      rwa [gathered] at later
    | false =>
      rw [if_neg Bool.false_ne_true]
      refine (handler.gives_textual interrupts position).bind_right fun middle gathered => ?_
      have later : Drive.Gives _ _ middle _ [] := inductionHypothesis
      rwa [gathered] at later

/-- A document that is driven through to its end gives what is kept of its stretches. -/
theorem gives_document {reading : Reading} (whole : reading.fault = none)
    (none : start.pending = []) :
    Drive.Gives (Drive.document handler.listener {} reading)
      (Drive.document handler.watched.listener {} reading) start
      ((Markup.stretches [] (reading.pieces.map Prod.snd)).flatMap Stretch.kept) [] := by
  unfold Drive.document
  rw [whole]
  refine (handler.gives_enter Node.root).bind_right fun begun gathered => ?_
  have given : Drive.Gives _ _ begun _ [] := handler.gives_pieces reading.pieces
  rw [gathered, none] at given
  have ended := given.bind_left fun _ gathered => gathered ▸ handler.gives_leave
  rw [bind_assoc, bind_assoc] at ended
  exact ended

end Handler

end Giving

/-! ### What is kept -/

section Sublists

variable {α β : Type}

/-- Lists that hold no more than others make them up only if each is the other one. -/
theorem append_eq_append_iff_of_sublist {first second : List α} {first' second' : List α}
    (one : first.Sublist first') (two : second.Sublist second') :
    first ++ second = first' ++ second' ↔ first = first' ∧ second = second' := by
  constructor
  · intro same
    have lengths := congrArg List.length same
    rw [List.length_append, List.length_append] at lengths
    have shorter := one.length_le
    have shorterToo := two.length_le
    exact ⟨one.eq_of_length (by omega), two.eq_of_length (by omega)⟩
  · rintro ⟨rfl, rfl⟩
    rfl

variable {f g : α → List β}

theorem flatMap_sublist_flatMap (each : ∀ value, (f value).Sublist (g value)) (values : List α) :
    (values.flatMap f).Sublist (values.flatMap g) := by
  induction values with
  | nil => exact .slnil
  | cons first rest inductionHypothesis =>
    rw [List.flatMap_cons, List.flatMap_cons]
    exact (each first).append inductionHypothesis

theorem flatMap_eq_flatMap_iff_of_sublist (each : ∀ value, (f value).Sublist (g value))
    {values : List α} :
    values.flatMap f = values.flatMap g ↔ ∀ value ∈ values, f value = g value := by
  induction values with
  | nil => exact iff_of_true rfl (List.forall_mem_nil _)
  | cons first rest inductionHypothesis =>
    rw [List.flatMap_cons, List.flatMap_cons, List.forall_mem_cons, ← inductionHypothesis]
    exact append_eq_append_iff_of_sublist (each first) (flatMap_sublist_flatMap each rest)

end Sublists

namespace Stretch

theorem kept_sublist (stretch : Stretch) : stretch.kept.Sublist stretch.characters := by
  cases stretch with
  | cdata content => exact .refl _
  | text content =>
    rw [kept]
    split
    · exact List.nil_sublist _
    · exact .refl _

theorem filter_kept_sublist (wanted : Char → Bool) (stretch : Stretch) :
    (stretch.kept.filter wanted).Sublist (stretch.characters.filter wanted) :=
  stretch.kept_sublist.filter wanted

/-- Of the characters of a class nothing is lost if a run of white space has none of them. -/
theorem filter_kept_eq_iff (wanted : Char → Bool) (stretch : Stretch) :
    stretch.kept.filter wanted = stretch.characters.filter wanted ↔
      ∀ content, stretch = text content → content.all Text.isSpace = true →
        ∀ c ∈ content, wanted c = false := by
  cases stretch with
  | cdata content => exact iff_of_true rfl nofun
  | text content =>
    rw [kept, characters]
    split
    · next blank =>
      rw [List.filter_nil, eq_comm, List.filter_eq_nil_iff]
      constructor
      · rintro none _ ⟨⟩ -
        exact fun c listed => Bool.eq_false_iff.mpr (none c listed)
      · exact fun none c listed => Bool.eq_false_iff.mp (none content rfl blank c listed)
    · next other =>
      refine iff_of_true rfl ?_
      rintro _ ⟨⟩ blank
      exact absurd blank other

end Stretch

namespace Markup

/-- What is kept of all stretches are characters of the document in their order. Of a class of
characters nothing is lost exactly if no run of nothing but white space has one of them. -/
theorem kept_of_stretches (pieces : List Markup) :
    let kept := (stretches [] pieces).flatMap Stretch.kept
    let content := pieces.flatMap characterData
    kept.Sublist content ∧
      ∀ wanted : Char → Bool, kept.filter wanted = content.filter wanted ↔
        ∀ run, .text run ∈ stretches [] pieces → run.all Text.isSpace = true →
          ∀ c ∈ run, wanted c = false := by
  intro kept content
  have whole : content = (stretches [] pieces).flatMap Stretch.characters :=
    (characters_stretches [] pieces).symm
  rw [whole]
  refine ⟨flatMap_sublist_flatMap Stretch.kept_sublist _, fun wanted => ?_⟩
  rw [List.filter_flatMap, List.filter_flatMap,
    flatMap_eq_flatMap_iff_of_sublist (Stretch.filter_kept_sublist wanted)]
  simp only [Stretch.filter_kept_eq_iff]
  constructor
  · exact fun each run listed => each _ listed run rfl
  · rintro each _ listed run rfl
    exact each run listed

end Markup

/-! ### What a handler is given -/

section Handlers

variable {σ : Type}

/-- The values of the nodes of text and of CDATA sections that a handler is given, if the drive
succeeds, are characters of the document in their order, and all of them that are not white space in
the sense of Unicode are there. Everything but blanks is there exactly if each run of text that is
nothing but such white space is nothing but blanks. -/
theorem drive_characterData_iff (handler : Handler σ) (serial : Nat) (reading : Reading)
    (context : Context) (state : σ) (after : Stage σ)
    (succeeds : handler.drive {} serial reading ⟨context, state⟩ = (.ok (), after)) :
    let pieces := reading.pieces.map Prod.snd
    let content := pieces.flatMap Markup.characterData
    ∃ calls,
      handler.watched.drive {} serial reading ⟨context, (state, [])⟩ =
          (.ok (), ⟨after.context, (after.state, calls)⟩) ∧
        let given := calls.flatMap Call.characterData
        given.Sublist content ∧
          given.filter (fun c => !Text.isSpace c) = content.filter (fun c => !Text.isSpace c) ∧
          (given.filter (fun c => !Text.isBlank c) = content.filter (fun c => !Text.isBlank c) ↔
            ∀ run, .text run ∈ Markup.stretches [] pieces → run.all Text.isSpace = true →
              run.all Text.isBlank = true) := by
  intro pieces content
  let start : Progress σ := { scan := { serial }, stage := ⟨context, state⟩ }
  rcases ran : Drive.document handler.listener {} reading start with ⟨result, final⟩
  obtain ⟨rfl, rfl⟩ := Prod.mk.inj (succeeds.symm.trans (Handler.drive_eq ran))
  obtain ⟨calls, same, gives, -⟩ :=
    handler.gives_document (Drive.fault_eq_none_of_ok ran) (show start.pending = [] from rfl)
  obtain ⟨given, -⟩ := gives () final ran
  obtain ⟨sublist, lost⟩ := Markup.kept_of_stretches pieces
  have watched := same []
  rw [ran] at watched
  refine ⟨calls, Handler.drive_eq watched, ?_⟩
  rw [given]
  refine ⟨sublist, (lost _).mpr fun run _ blank c listed => ?_, (lost _).trans ?_⟩
  · rw [List.all_eq_true.mp blank c listed]
    rfl
  · simp only [List.all_eq_true, Bool.not_eq_false']

end Handlers

/-- Next to a letter a space that is no blank is given. The blanks between two tags are not, but
nothing else is lost. -/
theorem drive_characterData_iff_besideLetter :
    let reading := Reading.ofText "<a>x\u00a0&amp;<![CDATA[ y]]><b> </b></a>".toList
    let pieces := reading.pieces.map Prod.snd
    ∃ calls after, silent.watched.drive {} 0 reading ⟨{}, ((), [])⟩ =
      (.ok (), ⟨after, ((), calls)⟩) ∧
      calls.flatMap Call.characterData = ['x', '\u00a0', '&', ' ', 'y'] ∧
      ∀ run, .text run ∈ Markup.stretches [] pieces → run.all Text.isSpace = true →
        run.all Text.isBlank = true := by
  intro reading pieces
  have succeeds : (silent.drive {} 0 reading ⟨{}, ()⟩).1.toOption = some () := by decide +kernel
  have given : (silent.watched.drive {} 0 reading ⟨{}, ((), [])⟩).2.state.2.flatMap
      Call.characterData = ['x', '\u00a0', '&', ' ', 'y'] := by decide +kernel
  have content : (pieces.flatMap Markup.characterData).filter (fun c => !Text.isBlank c) =
      ['x', '\u00a0', '&', 'y'] := by decide +kernel
  obtain ⟨calls, watched, -, -, lost⟩ :=
    drive_characterData_iff silent 0 reading {} () _ (Prod.ext (ok_of_toOption succeeds) rfl)
  rw [watched] at given
  refine ⟨calls, _, watched, given, lost.mp ?_⟩
  rw [given, content]
  rfl

/-- A space that is no blank is lost where it stands alone between two tags, although the drive
succeeds. -/
theorem drive_loses_noBreakSpace :
    let reading := Reading.ofText "<a>\u00a0</a>".toList
    let content := reading.pieces.flatMap fun entry => entry.2.characterData
    let ran := silent.watched.drive {} 0 reading ⟨{}, ((), [])⟩
    (silent.drive {} 0 reading ⟨{}, ()⟩).1 = .ok () ∧ ran.1 = .ok () ∧
      content.filter (fun c => !Text.isBlank c) = ['\u00a0'] ∧
      (ran.2.state.2.flatMap Call.characterData).filter (fun c => !Text.isBlank c) = [] := by
  intro reading content ran
  have succeeds : (silent.drive {} 0 reading ⟨{}, ()⟩).1.toOption = some () := by decide +kernel
  have succeedsToo : ran.1.toOption = some () := by decide +kernel
  exact ⟨ok_of_toOption succeeds, ok_of_toOption succeedsToo, by decide +kernel, by decide +kernel⟩

end StreamPath
